import Scrobbler.Proofs.Json.Canonical

/-!
What decoding fails for. One who takes any value finds no value of a wrong type: only the text can be at
fault. So where a value is judged after it was read, a mismatch comes from the judgement alone.
-/

namespace Scrobbler.Json

/-- Whatever the decoding fails for has a property. -/
def FailsOnly {α : Type} (p : DecodeError → Prop) (x : Except DecodeError α) : Prop :=
  ∀ e, x = .error e → p e

/-- A fault of the text, which ends too early or is not JSON. -/
def DecodeError.IsFault (e : DecodeError) : Prop := e.category ≠ .mismatch

/-- A value that is not the one wanted. -/
def DecodeError.IsMismatch (e : DecodeError) : Prop := e.category = .mismatch

/-- What is malformed is a fault of the text. -/
theorem Fault.isFault (fault : Fault) : (DecodeError.malformed fault).IsFault := by
  rw [DecodeError.IsFault, DecodeError.category]
  split <;> nofun

section

variable {α β : Type} {p : DecodeError → Prop} {x : Except DecodeError α} {depth : Nat}

theorem FailsOnly.ok (a : α) : FailsOnly p (.ok a) := nofun

theorem FailsOnly.error {e : DecodeError} (h : p e) : FailsOnly p (.error e : Except DecodeError α) := by
  rintro _ ⟨⟩
  exact h

/-- Two steps only fail for what one of them fails for. -/
theorem FailsOnly.bind {f : α → Except DecodeError β} (h : FailsOnly p x) (hNext : ∀ a, FailsOnly p (f a)) :
    FailsOnly p (x >>= f) := by
  cases x with
  | ok a => exact hNext a
  | error e => exact .error (h e rfl)

theorem FailsOnly.map {f : α → β} (h : FailsOnly p x) : FailsOnly p (x.map f) :=
  h.bind fun a => .ok (f a)

theorem FailsOnly.raise (fault : Fault) :
    FailsOnly DecodeError.IsFault (fault.raise : Except DecodeError α) :=
  .error fault.isFault

/-- Going down only fails for faults of the text, of which too much nesting is one. -/
theorem FailsOnly.descend {inside : Nat → Except DecodeError α}
    (h : ∀ depth, FailsOnly DecodeError.IsFault (inside depth)) :
    FailsOnly DecodeError.IsFault (descend depth inside) := by
  cases depth with
  | zero => exact .raise _
  | succ depth => exact h depth

theorem failsOnly_orFault (part : Except Fault α) : FailsOnly DecodeError.IsFault (orFault part) := by
  cases part with
  | ok a => exact .ok a
  | error fault => exact .raise fault

/-- The end of an array may only be malformed. -/
theorem failsOnly_checkArray (ending : ArrayEnd) : FailsOnly DecodeError.IsFault ending.check := by
  cases ending with
  | closed => exact .ok ()
  | _ => exact .raise _

theorem failsOnly_checkObject {seen : String → Except DecodeError Unit}
    (hSeen : ∀ name, FailsOnly DecodeError.IsFault (seen name)) (ending : ObjectEnd) :
    FailsOnly DecodeError.IsFault (ending.check seen) := by
  cases ending with
  | closed => exact .ok ()
  | colonMissing key atEnd =>
      exact (failsOnly_orFault key.content).bind fun name => (hSeen name).bind fun _ => .raise _
  | _ => exact .raise _

end

namespace Node

mutual

/-- The value of a tree fails for faults of the text only: it has no type to match. -/
theorem failsOnly_value (depth : Nat) (node : Node) : FailsOnly DecodeError.IsFault (value depth node) := by
  match node with
  | .null | .bool _ => exact .ok _
  | .number numeral => exact (failsOnly_orFault numeral.value).map
  | .text literal => exact (failsOnly_orFault literal.content).map
  | .array items ending =>
      rw [value]
      refine .descend fun depth => ?_
      exact (failsOnly_values depth items).bind fun _ => (failsOnly_checkArray ending).bind fun _ => .ok _
  | .object members ending =>
      rw [value]
      refine .descend fun depth => ?_
      exact (failsOnly_members depth members).bind fun _ =>
        (failsOnly_checkObject (fun _ => .ok ()) ending).bind fun _ => .ok _
  | .broken fault named => exact .raise _

theorem failsOnly_values (depth : Nat) (nodes : List Node) :
    FailsOnly DecodeError.IsFault (values depth nodes) := by
  match nodes with
  | [] => exact .ok _
  | node :: rest =>
      rw [values]
      exact (failsOnly_value depth node).bind fun _ => (failsOnly_values depth rest).bind fun _ => .ok _

theorem failsOnly_members (depth : Nat) (nodes : List (TextLiteral × Node)) :
    FailsOnly DecodeError.IsFault (members depth nodes) := by
  match nodes with
  | [] => exact .ok _
  | (key, node) :: rest =>
      rw [members]
      exact (failsOnly_orFault key.content).bind fun _ =>
        (failsOnly_value depth node).bind fun _ => (failsOnly_members depth rest).bind fun _ => .ok _

end

/-- A value that is judged after it was read is a mismatch exactly if it was read and the judgement finds
nothing in it. -/
theorem mismatch_iff {α : Type} {judge : Json → Except DecodeError α} {depth : Nat} {node : Node}
    (hJudge : ∀ v, FailsOnly DecodeError.IsMismatch (judge v)) :
    (∃ e, (value depth node >>= judge) = .error e ∧ e.IsMismatch) ↔
      ∃ v, value depth node = .ok v ∧ ¬∃ a, judge v = .ok a := by
  cases hRead : value depth node with
  | error fault =>
      have hFault := failsOnly_value depth node fault hRead
      simp only [reduceCtorEq, false_and, exists_false, iff_false]
      rintro ⟨_, ⟨⟩, hMismatch⟩
      exact hFault hMismatch
  | ok v =>
      rw [ok_bind]
      cases hFound : judge v with
      | error e => simp [hFound, hJudge v e hFound]
      | ok a => simp [hFound]

end Node

end Scrobbler.Json
