import ChipEight.Machine.Load
import ChipEight.Proofs.Memory.Cells
import ChipEight.Proofs.Program.Delivery
import ChipEight.Screen.Grid

/-!
# Loading programs

A program image is never too long for the memory from the usual start on. So it is loaded as a
whole, into the cells behind the program's start and no others.

A delivery is read to its end before anything is loaded. So it is loaded as a whole or not at all,
and nothing but its bytes counts.
-/

namespace ChipEight.Machine

variable {S : Type}

/-- A program that starts no higher than usual is loaded as a whole. -/
theorem loadRom_eq {m : Machine S} (rom : Rom) (h : m.memory.programStart ≤ Memory.defaultStart) :
    m.loadRom rom =
      ⟨.ok (),
        { m with memory := m.memory.filled m.memory.programStart.toNat rom.bytes },
        [.loaded rom.size m.memory.programStart]⟩ := by
  have hfits : rom.bytes.length ≤ 4096 - 0x200 := rom.fits
  have hstart : m.memory.programStart.toNat ≤ 0x200 := UInt16.le_iff_toNat_le.1 h
  have hload : m.memory.loadProgram rom.bytes =
      .ok () (m.memory.filled m.memory.programStart.toNat rom.bytes) :=
    Memory.load_eq_filled (UInt16.le_refl _) (by omega)
  have hfilled : (m.memory.filled m.memory.programStart.toNat rom.bytes).programStart =
      m.memory.programStart := by
    rw [Memory.filled]
  simp only [loadRom, hload, Outcome.lift_ok, Outcome.ok_andThen, Outcome.note, hfilled]

/-- A fresh machine behind a program differs from one before it in its memory only. -/
theorem loadRom_fresh (config : Config) (screen : S) (rom : Rom) :
    (fresh config screen).loadRom rom =
      ⟨.ok (),
        { fresh config screen with memory := (Memory.fresh config.policy).filled 0x200 rom.bytes },
        [.loaded rom.size 0x200]⟩ :=
  loadRom_eq rom (UInt16.le_refl _)

/-! ### Deliveries -/

section

variable {m : Machine S} {delivery : List Delivery}

/-- A delivery that fails leaves the machine as it was. -/
theorem loadDelivery_of_failure {fault : DeviceFault}
    (h : Delivery.failure? delivery = some fault) :
    m.loadDelivery delivery = .fail (.rom (.device fault)) m := by
  have hbytes : Delivery.bytes delivery = .error fault := by
    rw [Delivery.bytes_eq, h, Option.elim_some]
  rw [loadDelivery, Rom.ofDelivery, hbytes]

theorem ofDelivery_of_received (h : Delivery.failure? delivery = none) :
    Rom.ofDelivery delivery = Rom.ofBytes (Delivery.received delivery) := by
  have hbytes : Delivery.bytes delivery = .ok (Delivery.received delivery) := by
    rw [Delivery.bytes_eq, h, Option.elim_none]
  rw [Rom.ofDelivery, hbytes]

end

/-- A delivery is loaded as a whole or not at all. If the reading fails, this is the fault, however
much came before. If it brings more than 3584 bytes, the fault names their number. The machine is
then as it was. Otherwise all that was received makes a program image, and the delivery is loaded
just like this image, into whatever machine whose programs start no later than usual. -/
theorem loadDelivery_all_or_nothing {m : Machine S} (h : m.memory.programStart ≤ 0x200)
    (delivery : List Delivery) :
    let bytes := Delivery.received delivery
    (∀ fault, Delivery.failure? delivery = some fault →
      m.loadDelivery delivery = .fail (.rom (.device fault)) m) ∧
    (Delivery.failure? delivery = none → 3584 < bytes.length →
      m.loadDelivery delivery = .fail (.rom (.tooLarge bytes.length 3584)) m) ∧
    (Delivery.failure? delivery = none → bytes.length ≤ 3584 →
      ∃ rom, Rom.ofBytes bytes = .ok rom ∧ m.loadDelivery delivery = m.loadRom rom ∧
        (m.loadRom rom).result = .ok ()) := by
  intro bytes
  refine ⟨fun fault => loadDelivery_of_failure, ?_, ?_⟩
  · intro hnone hlarge
    have hrom : Rom.ofDelivery delivery = .error (.tooLarge bytes.length 3584) := by
      rw [ofDelivery_of_received hnone]
      exact Rom.ofBytes_of_lt hlarge
    rw [loadDelivery, hrom]
  · intro hnone hfits
    have hrom : Rom.ofDelivery delivery = .ok ⟨bytes, hfits⟩ := by
      rw [ofDelivery_of_received hnone]
      exact Rom.ofBytes_of_le hfits
    refine ⟨_, Rom.ofBytes_of_le hfits, ?_, ?_⟩
    · rw [loadDelivery, hrom]
    · rw [loadRom_eq _ h]

/-- A strict machine whose programs start early gets one delivery that fails when there are too many
bytes already, one that is too large by one byte, and one with an interruption and something behind
its end. -/
theorem loadDelivery_all_or_nothing_early :
    let memory : Memory := { Memory.fresh .strict with programStart := 0x100 }
    let m := { fresh ⟨.extended, .strict⟩ Grid.dark with memory := memory }
    let failing := [.piece (.replicate 4000 0), .failure .notUtf8]
    let large := [.piece (.replicate 3000 0), .piece (.replicate 585 0)]
    let cut := [.piece [0x00], .interrupted, .piece [0xE0, 0x12], .piece [], .failure .notUtf8]
    m.memory.programStart ≤ 0x200 ∧
      m.loadDelivery failing = .fail (.rom (.device .notUtf8)) m ∧
      m.loadDelivery large = .fail (.rom (.tooLarge 3585 3584)) m ∧
      ∃ rom, Rom.ofBytes [0x00, 0xE0, 0x12] = .ok rom ∧ m.loadDelivery cut = m.loadRom rom := by
  intro memory m failing large cut
  have hstart : m.memory.programStart ≤ 0x200 := by decide +kernel
  have hfailing : Delivery.failure? failing = some .notUtf8 := rfl
  have hlarge : Delivery.failure? large = none := rfl
  have hsize : (Delivery.received large).length = 3585 := by decide +kernel
  have hcut : Delivery.failure? cut = none := rfl
  have hbytes : Delivery.received cut = [0x00, 0xE0, 0x12] := rfl
  clear_value m failing large cut
  obtain ⟨hfail, -, -⟩ := loadDelivery_all_or_nothing hstart failing
  obtain ⟨-, hrefused, -⟩ := loadDelivery_all_or_nothing hstart large
  obtain ⟨-, -, hloaded⟩ := loadDelivery_all_or_nothing hstart cut
  rw [hsize] at hrefused
  rw [hbytes] at hloaded
  obtain ⟨rom, hrom, hload, -⟩ := hloaded hcut (by decide)
  exact ⟨hstart, hfail _ hfailing, hrefused hlarge (by decide), rom, hrom, hload⟩

end ChipEight.Machine
