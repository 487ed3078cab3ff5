import ChipEight.Proofs.Machine.Execution
import ChipEight.Proofs.Memory.Cells
import ChipEight.Proofs.Register.Access
import ChipEight.Proofs.Screen.Drawing

/-!
# Drawing from memory

A machine draws a sprite whose rows stand in memory, from the index register's address on. Only
twelve bits of the address and four of the number of rows count, and where memory ends the sprite
ends as well. Both coordinates are looked up first. So the flag register, which is written last, may
be one of them.
-/

namespace ChipEight

/-- The bytes of the cells from `a` on that are before `b`. -/
def Memory.between (m : Memory) (a b : Nat) : List UInt8 := (List.range' a (b - a)).map m.byteAt

namespace Machine

variable {S : Type}

/-- The sprite of a number of rows. -/
def sprite (m : Machine S) (rows : UInt8) : List UInt8 :=
  let start := m.registers.index.toNat % 4096
  m.memory.between start (min (start + rows.toNat % 16) 4096)

theorem read_eq_sprite (m : Machine S) (rows : UInt8) :
    m.memory.read (m.registers.index &&& 0x0FFF) (rows &&& 0x0F).toNat = m.sprite rows := by
  have hstart : (m.registers.index &&& 0x0FFF).toNat = m.registers.index.toNat % 4096 :=
    Word.toNat_address m.registers.index
  have hrows : (rows &&& 0x0F).toNat = rows.toNat % 16 := by
    rw [UInt8.toNat_and]
    exact Nat.and_two_pow_sub_one_eq_mod rows.toNat 4
  rw [Memory.read_eq, hstart, hrows, sprite, Memory.between]

variable [Surface S]

theorem drawn_eq (m : Machine S) (x y : UInt16) (rows : UInt8) : m.drawn x y rows =
    { m with
      screen := (Surface.draw m.screen (m.sprite rows) x.toNat y.toNat).2
      registers := m.registers.set Register.flag
        (if (Surface.draw m.screen (m.sprite rows) x.toNat y.toNat).1 then 1 else 0) } := by
  rw [drawn, read_eq_sprite]

/-- A draw at readable registers succeeds, and draws at what they hold. -/
theorem execute_draw_eq (m : Machine S) {rx ry : Register} (hx : rx.isRestricted = false)
    (hy : ry.isRestricted = false) (rows : UInt8) : m.execute (.draw rx ry rows) =
      .ok () (m.drawn (m.registers.held rx) (m.registers.held ry) rows) := by
  rw [execute, draw_eq rows (m.registers.read_eq_ok hx) (m.registers.read_eq_ok hy)]

/-- Drawing at the place that any two registers hold, but for the program counter and the stack
pointer, always succeeds. It lights the cells of the screen that the sprite in memory covers there
and leaves all others as they were. The flag register is 1 if one of these cells was on before, and
else 0. Nothing else changes, not even the index register. -/
theorem draw_lights_sprite (m : Machine Grid) {rx ry : Register} (rows : UInt8)
    (hx : rx ≠ .pc ∧ rx ≠ .sp) (hy : ry ≠ .pc ∧ ry ≠ .sp) :
    let start := m.registers.index.toNat % 4096
    let sprite := m.memory.between start (min (start + rows.toNat % 16) 4096)
    let cells := Sprite.covered sprite (m.registers.held rx).toNat (m.registers.held ry).toNat
    let o := m.execute (.draw rx ry rows)
    let flag := Register.general Register.flag
    o.result = .ok () ∧ o.log = [] ∧
      (∀ c : Nat × Nat, o.state.screen.isLit c.1 c.2 = true ↔
        m.screen.isLit c.1 c.2 = true ∨ c ∈ cells) ∧
      o.state.registers.held flag = (if ∃ c ∈ cells, m.screen.isLit c.1 c.2 = true then 1 else 0) ∧
      (∀ r, r ≠ flag → o.state.registers.held r = m.registers.held r) ∧
      o.state.memory = m.memory ∧ o.state.stack = m.stack ∧
      o.state.instructions = m.instructions := by
  intro start sprite cells o flag
  have ho : o = .ok () (m.drawn _ _ rows) := m.execute_draw_eq
    (Register.isRestricted_eq_false hx) (Register.isRestricted_eq_false hy) rows
  have hsprite : m.sprite rows = sprite := rfl
  rw [ho, drawn_eq, hsprite, Outcome.state_ok]
  refine ⟨rfl, rfl, fun c => ?_, ?_, fun r hr => ?_, rfl, rfl, rfl⟩
  · exact Grid.isLit_draw_iff.trans (or_congr_right Sprite.mem_covered_iff.symm)
  · rw [RegisterFile.held_set_self]
    by_cases h : ∃ c ∈ cells, m.screen.isLit c.1 c.2 = true
    · rw [if_pos h, if_pos (Grid.draw_collides_iff.2 h)]
      rfl
    · rw [if_neg h, if_neg (mt Grid.draw_collides_iff.1 h)]
      rfl
  · exact RegisterFile.held_set_of_ne _ hr _

/-- The flag register is the column and the delay timer the row. The index register is far above all
addresses, and both the sprite and the screen end with the first of its cells. -/
theorem draw_lights_sprite_end :
    let m : Machine Grid :=
      { fresh Config.default (Grid.dark.light 63 31) with
        memory := (Memory.fresh .permissive).put 0xFFF 0xC0
        registers := { RegisterFile.zero.set Register.flag 127 with index := 0x5FFF, delay := 31 } }
    let flag := Register.general Register.flag
    let o := m.execute (.draw flag .delay 0xF5)
    (flag ≠ .pc ∧ flag ≠ .sp) ∧ (Register.delay ≠ .pc ∧ Register.delay ≠ .sp) ∧
      m.registers.held flag = 127 ∧ o.result = .ok () ∧ o.state.registers.held flag = 1 ∧
      o.state.registers.held .index = 0x5FFF ∧
      ∀ x y, o.state.screen.isLit x y = true ↔ (x, y) = (63, 31) := by
  intro m flag o
  have hflag : flag ≠ .pc ∧ flag ≠ .sp := by decide
  have hdelay : Register.delay ≠ .pc ∧ Register.delay ≠ .sp := by decide
  have hx : m.registers.held flag = 127 := by decide
  have hindex : m.registers.held .index = 0x5FFF := by decide
  have hcells : Sprite.covered (m.memory.between (m.registers.index.toNat % 4096)
      (min (m.registers.index.toNat % 4096 + (0xF5 : UInt8).toNat % 16) 4096))
      (m.registers.held flag).toNat (m.registers.held .delay).toNat = {(63, 31)} := by
    decide +kernel
  have hlit (c : Nat × Nat) : m.screen.isLit c.1 c.2 = true ↔ c = (63, 31) := by
    simp [m, fresh, Grid.isLit_light_iff, Screen.width, Screen.height]
  obtain ⟨hresult, -, hcell, hcollision, hrest, -⟩ := draw_lights_sprite m 0xF5 hflag hdelay
  rw [hcells] at hcell hcollision
  simp only [hlit, Finset.mem_singleton, or_self, exists_eq_left, if_true] at hcell hcollision
  refine ⟨hflag, hdelay, hx, hresult, hcollision, ?_, fun x y => hcell (x, y)⟩
  rw [← hindex]
  exact hrest .index (by decide)

end Machine

end ChipEight
