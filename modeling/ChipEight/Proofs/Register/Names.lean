import ChipEight.Register.Basic
import Mathlib

/-!
# Names of registers

Every register has a name of its own. A text is looked up with its ASCII letters raised, and names
are written in capitals. So a text finds a register exactly if only the case of such letters
separates it from the name, and no text finds two.
-/

namespace ChipEight.Register

/-- Is a text the register's name, if the case of ASCII letters is ignored? -/
def IsNamed (r : Register) (text : String) : Prop := text.toLower = r.name.toLower

/-! ### The table of names -/

theorem mem_all (r : Register) : r ∈ all := by
  cases r with
  | general x => exact List.mem_append_left _ (List.mem_map_of_mem (List.mem_finRange x))
  | _ => exact List.mem_append_right _ (by decide)

instance {p : Register → Prop} [DecidablePred p] : Decidable (∀ r, p r) :=
  decidable_of_iff (∀ r ∈ all, p r) ⟨fun h r => h r (mem_all r), fun h r _ => h r⟩

/-- No two registers have the same name. -/
theorem name_injective : Function.Injective name := by
  have hnodup : (all.map name).Nodup := by decide +kernel
  exact fun r r' h => List.inj_on_of_nodup_map hnodup (mem_all r) (mem_all r') h

theorem toUpper_name (r : Register) : r.name.toUpper = r.name := by
  revert r
  decide +kernel

/-! ### The case of letters -/

theorem toUpper_toLower (text : String) : text.toLower.toUpper = text.toUpper := by
  rw [String.toUpper, String.toLower, String.map_map]
  exact congrArg (String.map · text) (funext Char.toUpper_toLower_eq_toUpper)

theorem toLower_toUpper (text : String) : text.toUpper.toLower = text.toLower := by
  rw [String.toUpper, String.toLower, String.map_map]
  exact congrArg (String.map · text) (funext Char.toLower_toUpper_eq_toLower)

variable {r r' : Register} {text : String}

theorem isNamed_iff : r.IsNamed text ↔ r.name = text.toUpper := by
  constructor
  · intro h
    rw [← toUpper_toLower, h, toUpper_toLower, toUpper_name]
  · intro h
    rw [IsNamed, h, toLower_toUpper]

/-- A text names one register at most. -/
theorem IsNamed.unique (h : r.IsNamed text) (h' : r'.IsNamed text) : r = r' :=
  name_injective ((isNamed_iff.1 h).trans (isNamed_iff.1 h').symm)

instance : Decidable (r.IsNamed text) := decidable_of_iff _ isNamed_iff.symm

/-! ### Looking names up -/

theorem ofName?_eq (text : String) : ofName? text =
    (all.find? fun r => r.IsNamed text).elim (.error (.unknown text)) .ok := by
  have hname (r : Register) :
      r.name.toList = text.toList.map Char.toUpper ↔ r.IsNamed text := by
    rw [isNamed_iff, ← String.toList_inj, String.toUpper, String.toList_map]
  simp only [ofName?, hname]
  cases all.find? fun r => r.IsNamed text <;> rfl

theorem find?_isNamed_eq_some_iff :
    (all.find? fun r => r.IsNamed text) = some r ↔ r.IsNamed text := by
  constructor
  · intro h
    simpa using List.find?_some h
  · intro h
    cases hfind : all.find? fun r => r.IsNamed text with
    | some r' =>
      have h' : r'.IsNamed text := by simpa using List.find?_some hfind
      rw [h'.unique h]
    | none => exact absurd (decide_eq_true h) (List.find?_eq_none.1 hfind r (mem_all r))

/-- A register is found by its name, and by nothing else. -/
theorem ofName?_eq_ok_iff : ofName? text = .ok r ↔ r.IsNamed text := by
  rw [← find?_isNamed_eq_some_iff, ofName?_eq]
  cases all.find? fun r => r.IsNamed text <;> simp

/-- A text that is no name is handed back as it was. -/
theorem ofName?_eq_error_iff {fault : Fault} :
    ofName? text = .error fault ↔ (∀ r : Register, ¬ r.IsNamed text) ∧ fault = .unknown text := by
  rw [ofName?_eq]
  cases hfind : all.find? fun r => r.IsNamed text with
  | some r =>
    have hnamed : r.IsNamed text := find?_isNamed_eq_some_iff.1 hfind
    exact iff_of_false nofun fun h => h.1 r hnamed
  | none =>
    have hnone (r : Register) : ¬ r.IsNamed text := by
      simpa using List.find?_eq_none.1 hfind r (mem_all r)
    simp [hnone, eq_comm]

/-- A letter that merely has one of the names as its capital form is no ASCII letter. -/
example : ofName? "i" = .ok .index ∧ ofName? "ı" = .error (.unknown "ı") := by decide +kernel

end ChipEight.Register
