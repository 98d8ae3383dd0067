/-
**No host ends in white space.**

Control characters and white space have no form in a domain name, stand in no address and are no digit
of a port, so the part of a URL that names its host never ends in one of them.

* `IsFiller`: the characters that may stand around a URL.
* `webHost_concat`, `readPort_concat`: what does not end in them.
-/

import Docsite.Proofs.List.Correspondence
import Docsite.Proofs.Text.Percent
import Docsite.Url.Reader

namespace Docsite.Url

/-- A control character or white space. -/
def IsFiller (c : Char) : Prop :=
  c.toNat ≤ 0x20 ∨ Text.isBlank c = true

instance (c : Char) : Decidable (IsFiller c) :=
  inferInstanceAs (Decidable (_ ∨ _))

section Fillers

variable {c : Char}

theorem IsFiller.not_digit (filler : IsFiller c) : Text.Numeral.digit? c = none := by
  have away : ¬ (0x30 ≤ c.toNat ∧ c.toNat ≤ 0x39) ∧ ¬ (0x41 ≤ c.toNat ∧ c.toNat ≤ 0x46) ∧
      ¬ (0x61 ≤ c.toNat ∧ c.toNat ≤ 0x66) := by
    rcases filler with control | blank
    · omega
    · simp only [Text.isBlank, Bool.or_eq_true, Bool.and_eq_true, decide_eq_true_eq,
        beq_iff_eq] at blank
      omega
  simp [Text.Numeral.digit?, away]

/-- A character that has another number than all fillers is none. -/
theorem IsFiller.ne (filler : IsFiller c) {d : Char} (noFiller : ¬ IsFiller d) : c ≠ d := by
  rintro rfl
  exact noFiller filler

/-- A name with a control character or white space is no domain name. -/
theorem IsFiller.toAscii?_eq_none (filler : IsFiller c) {name : List Char} (member : c ∈ name) :
    Domain.toAscii? name = none := by
  have noForm : Domain.mapChar? c = none := by
    have isFiller : (decide (c.toNat ≤ 0x20) || Text.isBlank c) = true := by
      simpa [IsFiller] using filler
    rw [Domain.mapChar?, if_pos isFiller]
  have noForms : name.mapM Domain.mapChar? = none := by
    rw [Option.eq_none_iff_forall_ne_some]
    intro forms mapped
    have related := mapM_eq_some_iff.mp mapped
    obtain ⟨form, -, isForm⟩ := exists_of_mem_forall₂ related.flip member
    cases noForm.symm.trans isForm
  rw [Domain.toAscii?, Domain.common?, noForms]
  rfl

/-- **The host of a web URL does not end in a control character or white space.** -/
theorem webHost_concat (filler : IsFiller c) (cs : List Char) (host : Host) :
    webHost (cs ++ [c]) ≠ .ok host := by
  intro read
  have last : (cs ++ [c]).getLast? = some c := List.getLast?_concat
  unfold webHost at read
  split at read
  · have noBracket : (some c != some ']') = true := by
      have differs : c ≠ ']' := filler.ne (by decide)
      simpa using differs
    rw [bracketedHost, last, if_pos noBracket] at read
    cases read
  · have noName : (Text.Percent.decode? (String.ofList (cs ++ [c]))).bind
        (Domain.toAscii? ·.toList) = none := by
      match decoding : Text.Percent.decode? (String.ofList (cs ++ [c])) with
      | none => rfl
      | some decoded =>
        obtain ⟨before, ends⟩ := Text.Percent.decode?_concat filler.not_digit decoding
        rw [Option.bind_some, ends]
        exact filler.toAscii?_eq_none (List.mem_append_right _ List.mem_cons_self)
    rw [noName] at read
    cases read

/-- A port does not end in a control character or white space. -/
theorem readPort_concat (filler : IsFiller c) (scheme : String) (digits : List Char)
    (port : Option Nat) : readPort scheme (digits ++ [c]) ≠ .ok port := by
  intro read
  have noDigits : (digits ++ [c]).all (Text.Numeral.isDigit 10) = false := by
    simp [Text.Numeral.isDigit, filler.not_digit]
  have noNumber : Text.Numeral.read? 10 (digits ++ [c]) = none := by
    rw [Text.Numeral.read?, noDigits]
    rfl
  rw [readPort, if_neg (by simp), noNumber] at read
  cases read

end Fillers

end Docsite.Url
