import AmbientDecls.Emit.Declaration
import AmbientDecls.Proofs.Text.Lines

/-! Comments of declarations. Whatever a short text says, a comment ends where it should and is a single line. -/

namespace AmbientDecls

namespace Text

theorem isBlank_of_isLineEnd {c : Char} (h : isLineEnd c = true) : isBlank c = true := by
  simp only [isLineEnd, isBlank, Bool.or_eq_true, Bool.and_eq_true, decide_eq_true_eq, beq_iff_eq] at h ⊢
  omega

/-- Between words stand spaces only, so a collapsed text has no line boundaries. -/
theorem unbroken_collapse (s : List Char) : ∀ c ∈ collapse s, isLineEnd c = false := by
  intro c hc
  rcases mem_joined hc with hc | ⟨word, hword, hc⟩
  · obtain rfl := List.mem_singleton.mp hc
    rfl
  · have hblank : isBlank c = false := not_of_mem_pieces (List.mem_filter.mp hword).1 c hc
    cases hend : isLineEnd c with
    | false => rfl
    | true =>
      rw [isBlank_of_isLineEnd hend] at hblank
      cases hblank

end Text

open Text

/-- The mark that ends a comment. -/
def endMark : List Char := ['*', '/']

theorem unbroken_commentText (text : String) : ∀ c ∈ (commentText text).toList, isLineEnd c = false := by
  intro c hc
  rw [commentText, String.toList_ofList] at hc
  rcases mem_of_mem_replacePair hc with hc | hc
  · have hapart : ∀ d ∈ ['*', '\\', '/'], isLineEnd d = false := by simp [isLineEnd]
    exact hapart c hc
  · exact unbroken_collapse _ c hc

theorem commentText_unended (text : String) : ¬ endMark <:+: (commentText text).toList := by
  rw [commentText, String.toList_ofList]
  exact not_pair_replacePair (by decide) (by decide) (by decide)

/-- What a comment says. -/
def commentBody (text url : String) : List Char :=
  if (commentText text).isEmpty then url.toList else (commentText text).toList ++ ' ' :: url.toList

theorem toList_docComment (text url : String) :
    (docComment text url).toList = ['/', '*'] ++ ' ' :: (commentBody text url ++ [' ']) ++ endMark := by
  unfold docComment commentBody
  simp only [String.toList_append]
  split <;> simp [endMark, String.toList_append]

variable (text : String) {url : String}

theorem unbroken_docComment (hurl : ∀ c ∈ url.toList, isLineEnd c = false) :
    ∀ c ∈ (docComment text url).toList, isLineEnd c = false := by
  have hbody : ∀ c ∈ commentBody text url, isLineEnd c = false := by
    unfold commentBody
    split
    · exact hurl
    · refine List.forall_mem_append.mpr ⟨unbroken_commentText text, ?_⟩
      exact List.forall_mem_cons.mpr ⟨rfl, hurl⟩
  have hspace : ∀ c ∈ [' '], isLineEnd c = false := List.forall_mem_singleton.mpr rfl
  have hbegin : ∀ c ∈ ['/', '*'], isLineEnd c = false := by simp [isLineEnd]
  have hend : ∀ c ∈ endMark, isLineEnd c = false := by simp [endMark, isLineEnd]
  rw [toList_docComment]
  refine List.forall_mem_append.mpr ⟨List.forall_mem_append.mpr ⟨hbegin, ?_⟩, hend⟩
  exact List.forall_mem_cons.mpr ⟨rfl, List.forall_mem_append.mpr ⟨hbody, hspace⟩⟩

theorem docComment_ne_nil (url : String) : (docComment text url).toList ≠ [] := by
  rw [toList_docComment]
  exact List.cons_ne_nil _ _

theorem commentBody_unended (hurl : ¬ endMark <:+: url.toList) : ¬ endMark <:+: commentBody text url := by
  unfold commentBody
  split
  · exact hurl
  · exact not_pair_append_cons (by decide) (by decide) (commentText_unended text) hurl

/-- Before its last character a comment is not ended. -/
theorem opened_unended (hurl : ¬ endMark <:+: url.toList) :
    ¬ endMark <:+: ['/', '*'] ++ ' ' :: (commentBody text url ++ [' ']) ++ ['*'] := by
  have hlast : ¬ endMark <:+: commentBody text url ++ ' ' :: ['*'] :=
    not_pair_append_cons (by decide) (by decide) (commentBody_unended text hurl) (by decide)
  have hopened : ¬ endMark <:+: ['/', '*'] ++ ' ' :: (commentBody text url ++ ' ' :: ['*']) :=
    not_pair_append_cons (by decide) (by decide) (by decide) hlast
  simpa using hopened

/-- Whatever a short text says, its comment is ended once, by its last two characters, and is a single line, which is moved to
the right as it is, also before a declaration. -/
theorem comment_closed (hmark : ¬ endMark <:+: url.toList) (hline : ∀ c ∈ url.toList, isLineEnd c = false) :
    let doc := docComment text url
    (∃ body, doc.toList = body ++ endMark ∧
      ∀ front back, doc.toList = front ++ endMark ++ back → front = body ∧ back = []) ∧
    (∀ c ∈ doc.toList, isLineEnd c = false) ∧
    lines doc.toList = [doc.toList] ∧
    indent doc = "    " ++ doc ∧
    ∀ rest, rest ≠ "" → indent (doc ++ "\n" ++ rest) = "    " ++ doc ++ "\n" ++ indent rest := by
  intro doc
  have hunbroken := unbroken_docComment text hline
  have hfilled := docComment_ne_nil text url
  refine ⟨⟨_, toList_docComment text url, fun front back heq => ?_⟩, hunbroken,
    lines_of_unbroken hunbroken hfilled, ?_, fun rest hrest => ?_⟩
  · rw [toList_docComment] at heq
    exact eq_of_pair_at_end (opened_unended text hmark) heq
  · apply String.toList_inj.mp
    rw [indent, String.toList_ofList, indented_of_unbroken hunbroken hfilled, String.toList_append]
    rfl
  · have hmore : rest.toList ≠ [] := fun hnil => hrest (String.toList_inj.mp hnil)
    have hblock : (doc ++ "\n" ++ rest).toList = doc.toList ++ '\n' :: rest.toList := by
      simp [String.toList_append]
    apply String.toList_inj.mp
    rw [indent, String.toList_ofList, hblock, indented_append_lineFeed hunbroken hfilled hmore]
    simp [indent, doc, String.toList_append]

theorem comment_closed_brokenText :
    let doc := docComment "a */\u2028 **/ b" "http://x/#!/api/Ext.A"
    (∀ c ∈ "http://x/#!/api/Ext.A".toList, isLineEnd c = false) ∧
    doc = "/* a *\\/ **\\/ b http://x/#!/api/Ext.A */" ∧
    indent (doc ++ "\nexport class A") = "    " ++ doc ++ "\n" ++ indent "export class A" := by
  intro doc
  have hmark : ¬ endMark <:+: "http://x/#!/api/Ext.A".toList := by decide +kernel
  have hline : ∀ c ∈ "http://x/#!/api/Ext.A".toList, isLineEnd c = false := by simp [isLineEnd]
  obtain ⟨_, _, _, _, hindent⟩ := comment_closed "a */\u2028 **/ b" hmark hline
  exact ⟨hline, by decide +kernel, hindent "export class A" (by decide)⟩

end AmbientDecls
