import ChipEight.Proofs.Machine.Execution
import ChipEight.Proofs.Register.Access
import ChipEight.Screen.Recorder

/-!
# Instructions that are refused

An instruction may name any registers, the program counter and the stack pointer among them. It is
refused for the first of these two that it comes upon, before it has done anything: whatever it
changes, and whatever it asks of the screen, comes after its last look at a register that could be
refused.
-/

namespace ChipEight

/-- The registers that an instruction names, in the order in which it comes upon them. -/
def Instruction.operands : Instruction → List Register
  | .skipIfEqual left right | .skipIfNotEqual left right => left :: right.registers
  | .load target source => source.registers ++ [target]
  | .draw x y _ => [x, y]
  | _ => []

/-- The coordinates of a drawing. -/
def RegisterFile.coordinates (f : RegisterFile) (rx ry : Register) :
    Except Register.Fault (UInt16 × UInt16) := do
  let x ← f.read rx
  let y ← f.read ry
  return (x, y)

theorem RegisterFile.guards_coordinates (f : RegisterFile) (rx ry : Register) :
    Guards [rx, ry] (f.coordinates rx ry) :=
  (f.guards_read rx).bind fun x => (f.guards_read ry).bind fun y => guards_ok (x, y)

namespace Machine

variable {S : Type}

/-- The machine with a record of what its screen is asked for from now on. -/
def onRecord (m : Machine S) : Machine (Recorder S) := { m with screen := .on m.screen none }

/-! ### What is given -/

section

variable {m : Machine S} {α : Type} {rs : List Register} {value : Except Register.Fault α}
  {next : α → Outcome (Machine S) Fault Unit}

theorem given_eq_fail (h : Guards rs value) {r : Register}
    (hr : rs.find? Register.isRestricted = some r) :
    m.given value next = .fail (.register (.restricted r)) m := by
  rw [h.refused hr]
  rfl

theorem given_result (h : Guards rs value) (hrs : rs.find? Register.isRestricted = none)
    (hnext : ∀ a, (next a).result = .ok ()) : (m.given value next).result = .ok () := by
  obtain ⟨a, rfl⟩ := h.granted hrs
  exact hnext a

end

variable [Surface S]

/-- With its coordinates a drawing has all that could be refused. -/
theorem draw_eq_given (m : Machine S) (rx ry : Register) (rows : UInt8) : m.draw rx ry rows =
    m.given (m.registers.coordinates rx ry) fun p => .ok () (m.drawn p.1 p.2 rows) := by
  cases hx : m.registers.read rx with
  | error fault =>
    rw [draw, RegisterFile.coordinates, hx]
    rfl
  | ok x =>
    cases hy : m.registers.read ry with
    | error fault =>
      rw [draw, RegisterFile.coordinates, hx, hy]
      rfl
    | ok y =>
      rw [draw_eq rows hx hy, RegisterFile.coordinates, hx, hy]
      rfl

/-! ### Instructions -/

variable {m : Machine S} {i : Instruction}

/-- The first restricted operand is the fault, and nothing else happens. -/
theorem execute_eq_fail {r : Register} (h : i.operands.find? Register.isRestricted = some r) :
    m.execute i = .fail (.register (.restricted r)) m := by
  cases i with
  | skipIfEqual left right | skipIfNotEqual left right =>
    exact given_eq_fail (m.registers.guards_agree left right) h
  | load target source => exact given_eq_fail (m.registers.guards_load target source) h
  | draw rx ry rows =>
    rw [execute, draw_eq_given]
    exact given_eq_fail (m.registers.guards_coordinates rx ry) h
  | _ => cases h

theorem execute_result_of_find?_eq_none (h : i.operands.find? Register.isRestricted = none) :
    (m.execute i).result = .ok () := by
  cases i with
  | clear | jump | loadIndex | unknown => rfl
  | ret => rw [execute, ret_eq]
  | call target => rw [execute, call_eq]
  | skipIfEqual left right | skipIfNotEqual left right =>
    exact given_result (m.registers.guards_agree left right) h fun _ => rfl
  | load target source =>
    exact given_result (m.registers.guards_load target source) h fun _ => rfl
  | draw rx ry rows =>
    rw [execute, draw_eq_given]
    exact given_result (m.registers.guards_coordinates rx ry) h fun _ => rfl

/-- An instruction is refused exactly if it names the program counter or the stack pointer, and then
for the one of them that comes first: the left of a skip before the right, the source of a load
before the target, the column of a drawing before the row. This is all that comes of it. The machine
is as it was before in all its parts, and its screen was asked for nothing. -/
theorem execute_refuses_restricted (m : Machine S) (i : Instruction) :
    ((∃ fault, (m.execute i).result = .error fault) ↔ ∃ r ∈ i.operands, r = .pc ∨ r = .sp) ∧
      ∀ fault, (m.execute i).result = .error fault →
        (∃ r, i.operands.find? (fun r => r = .pc ∨ r = .sp) = some r ∧
          fault = .register (.restricted r)) ∧
        (m.execute i).state = m ∧ (m.execute i).log = [] ∧
        (m.onRecord.execute i).state.screen.calls = #[] := by
  have hrestricted : (fun r : Register => decide (r = .pc ∨ r = .sp)) = Register.isRestricted := by
    funext r
    cases r <;> rfl
  rw [hrestricted]
  cases hfind : i.operands.find? Register.isRestricted with
  | none =>
    rw [execute_result_of_find?_eq_none hfind]
    constructor
    · constructor
      · rintro ⟨fault, hfault⟩
        cases hfault
      · rintro ⟨r, hmem, hr⟩
        exact absurd (Register.isRestricted_iff.2 hr) (List.find?_eq_none.1 hfind r hmem)
    · intro fault hfault
      cases hfault
  | some r =>
    have hr : r = .pc ∨ r = .sp := Register.isRestricted_iff.1 (List.find?_some hfind)
    rw [execute_eq_fail hfind, execute_eq_fail hfind]
    constructor
    · exact ⟨fun _ => ⟨r, List.mem_of_find?_eq_some hfind, hr⟩, fun _ => ⟨_, rfl⟩⟩
    · intro fault hfault
      cases hfault
      exact ⟨⟨r, rfl, rfl⟩, rfl, rfl, rfl⟩

/-- A load comes upon its source first. -/
example (m : Machine S) : (m.execute (.load .pc (.register .sp))).result =
    .error (.register (.restricted .sp)) := rfl

end Machine

end ChipEight
