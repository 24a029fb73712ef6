import AmbientDecls.Proofs.Build.Outcomes
import AmbientDecls.Proofs.CommandLine.Scripts

/-! What leaves a command line. Each act fails in some ways only, and each step catches some of them; what is left over
leaves the run. -/

namespace AmbientDecls

namespace Act

section Printing

variable {P : Failure → Prop} (hcolour : P .colour) (hmarkup : P .markup)

include hcolour hmarkup

end Printing

section Reading

variable {P : Failure → Prop} (hnul : P .nul) (hfile : ∀ e, P (.file e)) (hutf8 : ∀ fault, P (.notUtf8 fault))

include hnul hfile hutf8

end Reading

section Records

variable {P : Failure → Prop}

end Records

section Steps

variable {P : Failure → Prop} (hnul : P .nul) (hfile : ∀ e, P (.file e))

include hnul hfile

end Steps

section Configuration

variable {P : Failure → Prop}

end Configuration

end Act

namespace Script

variable {P : Failure → Prop} {s : Script} {w v : World} {guard : Guard} {f : Failure}

/-- What is not caught at a step has a property. -/
def Lets (P : Failure → Prop) : Script → Prop
  | done _ => True
  | step guard act next => Act.Fails (fun f => guard f = none → P f) act ∧ ∀ a, (next a).Lets P

theorem Lets.mono {Q : Failure → Prop} (h : ∀ f, P f → Q f) (hs : s.Lets P) : s.Lets Q := by
  induction s with
  | done => trivial
  | step guard act next ih =>
    exact ⟨fun w f hf hguard => h f (hs.1 w f hf hguard), fun a => ih a (hs.2 a)⟩

end Script

/-- Neither a record that cannot be read nor a tool that did not do its work. -/
def Failure.Other (f : Failure) : Prop := (∀ path fault, f ≠ .record path fault) ∧ ∀ fault, f ≠ .tool fault

/-- Nor a file that cannot be read or written. -/
def Failure.Apart (f : Failure) : Prop := f.Other ∧ ∀ e, f ≠ .file e

namespace Script

open Act Failure

section Commands

variable {P : Failure → Prop} (hcolour : P .colour) (hmarkup : P .markup)

include hcolour hmarkup

end Commands

theorem Lets.other {s : Script} (h : s.Lets Apart) : s.Lets Other := h.mono fun _ hf => hf.1

end Script

end AmbientDecls
