import ComputerSystems.Data.Run
import ComputerSystems.Usb.Keyboard
import Mathlib.Data.List.Dedup
import Mathlib.Data.List.Perm.Basic

/-! # Key events

A keyboard says in each report which keys are down.  The keys that are pressed are those
that are in a report and not in the one before, and each is to give its character once.

The driver keeps one code only, that of the last slot in use: it follows the keys as long as
a key that is pressed is the only one and is in that slot, and as long as the modifiers are
one shift key or none.
-/

namespace ComputerSystems.Verified

open ComputerSystems.Data ComputerSystems.Usb

variable {beyond : Nat → UInt8} {report previous : Report} {caps : Bool} {code : UInt8} {keyboard : KeyboardDevice}

/-! ## The keys of a report -/

def capsLockCode : UInt8 := 0x39

def keyCodes (report : Report) : List UInt8 := ([2, 3, 4, 5, 6, 7] : List (Fin 8)).map report

/-- The codes of `KeyMap` that are in a report and not in the one before. -/
def pressed (previous report : Report) : List UInt8 :=
  ((keyCodes report).filter fun code => 4 ≤ code && code ≤ capsLockCode && code ∉ keyCodes previous).dedup

/-- A shift bit is set, whatever the other bits. -/
def shifted (report : Report) : Bool := report 0 &&& (leftShiftModifier ||| rightShiftModifier) != 0

/-- The column in which a key is to be looked up. -/
def dueColumn (caps : Bool) (report : Report) (code : UInt8) : Nat :=
  if shifted report || caps && code ≤ 0x1D then 1 else 0

/-- The character that a key is to give. -/
def dueChar (caps : Bool) (report : Report) (code : UInt8) : UInt8 :=
  let pair := keyMap.getD code.toNat (0, 0)
  if dueColumn caps report code = 0 then pair.1 else pair.2

/-! ## Runs -/

/-- The keyboard and the report before. -/
structure Typing where
  keyboard : KeyboardDevice
  previous : Report := fun _ => 0

/-- The keyboard when a report has been received. -/
def Typing.received (typing : Typing) (report : Report) : KeyboardDevice :=
  { typing.keyboard with reportBuffer := report }

/-- What a report of eight bytes is made into. -/
def Typing.completes (beyond : Nat → UInt8) (typing : Typing) (report : Report) : List UInt8 × KeyboardDevice :=
  keyboardCompletion beyond 1 reportSize (typing.received report)

def typingStep (beyond : Nat → UInt8) (typing : Typing) (report : Report) : Option Typing :=
  some ⟨(typing.completes beyond report).2, report⟩

/-- The code for which `KeyMap` is read. -/
def readCode (keyboard : KeyboardDevice) : Option UInt8 :=
  let keyCode := (newKeyCode keyboard).1
  if keyCode ≠ 0 ∧ keyCode ≤ capsLockCode then some keyCode else none

/-- What is asked of a report. -/
structure KeysFollow (beyond : Nat → UInt8) (typing : Typing) (report : Report) : Prop where
  delivered : (typing.completes beyond report).1.Perm
    (((pressed typing.previous report).filter (· != capsLockCode)).map (dueChar typing.keyboard.capsLock report))
  capsLock : (typing.completes beyond report).2.capsLock =
    (typing.keyboard.capsLock ^^ decide (capsLockCode ∈ pressed typing.previous report))
  column : ∀ code, readCode (typing.received report) = some code →
    keyColumn code (typing.received report) = dueColumn typing.keyboard.capsLock report code

/-- The modifiers are none, the left control key or one shift key; or caps lock is on for a letter. -/
def PlainModifiers (caps : Bool) (report : Report) (code : UInt8) : Prop :=
  caps = true ∧ code ≤ 0x1D ∨
    report 0 = 0 ∨ report 0 = defaultModifier ∨ report 0 = leftShiftModifier ∨ report 0 = rightShiftModifier

/-- The one key that is pressed gives the character of the key in the last slot. -/
def OnlyKey (caps : Bool) (report : Report) (code : UInt8) : List UInt8 → Prop
  | [key] => dueChar caps report key = dueChar caps report code
  | _ => False

/-- No key is pressed while the last slot stays as it was, is cleared or holds a code past the
    table; otherwise the key in it is the only one, with plain modifiers. -/
def KeysFit (typing : Typing) (report : Report) : Prop :=
  let code := getKeyCode report
  if code = getKeyCode typing.previous ∨ code = 0 ∨ capsLockCode < code then pressed typing.previous report = []
  else
    4 ≤ code ∧ PlainModifiers typing.keyboard.capsLock report code ∧
      OnlyKey typing.keyboard.capsLock report code (pressed typing.previous report)

structure TypingInv (typing : Typing) : Prop where
  keyPressed : typing.keyboard.keyPressed = true
  lastPhyCode : typing.keyboard.lastPhyCode = getKeyCode typing.previous

/-! ## The table -/

/-- Only the first rows are empty, and only caps lock has the character 1. -/
theorem keyMap_chars : ∀ row < 0x3A,
    ((keyMap.getD row (0, 0)).1 = 0 ↔ row < 4) ∧ ((keyMap.getD row (0, 0)).2 = 0 ↔ row < 4) ∧
      ((keyMap.getD row (0, 0)).1 = 1 ↔ row = 0x39) ∧ ((keyMap.getD row (0, 0)).2 = 1 ↔ row = 0x39) := by
  decide

theorem dueChar_eq_zero (known : code ≤ capsLockCode) : dueChar caps report code = 0 ↔ code < 4 := by
  obtain ⟨first, second, _⟩ := keyMap_chars code.toNat (Nat.lt_succ_of_le (UInt8.le_iff_toNat_le.mp known))
  rw [dueChar, UInt8.lt_iff_toNat_lt]
  split
  · exact first
  · exact second

theorem dueChar_eq_one (known : code ≤ capsLockCode) : dueChar caps report code = 1 ↔ code = capsLockCode := by
  obtain ⟨_, _, first, second⟩ := keyMap_chars code.toNat (Nat.lt_succ_of_le (UInt8.le_iff_toNat_le.mp known))
  have same : code = capsLockCode ↔ code.toNat = 0x39 := UInt8.toNat_inj.symm
  rw [dueChar, same]
  split
  · exact first
  · exact second

/-- In the first two columns, a row of the table is read. -/
theorem keyMapAt_due (known : code ≤ capsLockCode) :
    keyMapAt beyond code (dueColumn caps report code) = dueChar caps report code := by
  have row : code.toNat < keyMap.length := Nat.lt_succ_of_le (UInt8.le_iff_toNat_le.mp known)
  have column : dueColumn caps report code = 0 ∨ dueColumn caps report code = 1 := by
    rw [dueColumn]
    split
    · exact .inr rfl
    · exact .inl rfl
  rw [dueChar, List.getD_eq_getElem?_getD, keyMapAt]
  obtain zero | one := column
  · simp [zero, row]
  · have half : (2 * code.toNat + 1) / 2 = code.toNat := by omega
    have odd : (2 * code.toNat + 1) % 2 = 1 := by omega
    simp [one, half, odd, row]

/-- `modifiers - 1` is the column that is due for four values of the modifiers. -/
theorem modifiers_due : ∀ bits : BitVec 8,
    (((if UInt8.ofBitVec bits = rightShiftModifier then leftShiftModifier
          else if UInt8.ofBitVec bits = 0 then defaultModifier else UInt8.ofBitVec bits).toNat - 1 =
        if UInt8.ofBitVec bits &&& (leftShiftModifier ||| rightShiftModifier) != 0 then 1 else 0) ↔
      UInt8.ofBitVec bits = 0 ∨ UInt8.ofBitVec bits = defaultModifier ∨ UInt8.ofBitVec bits = leftShiftModifier ∨
        UInt8.ofBitVec bits = rightShiftModifier) := by
  decide +kernel

/-- The modifiers give the column that is due exactly where they are plain. -/
theorem keyColumn_due_iff (caps_eq : keyboard.capsLock = caps) (report_eq : keyboard.reportBuffer = report) :
    keyColumn code keyboard = dueColumn caps report code ↔ PlainModifiers caps report code := by
  rw [keyColumn, dueColumn, PlainModifiers, caps_eq, report_eq]
  by_cases letter : caps = true ∧ code ≤ 0x1D
  · simp [letter]
  · have small : (caps && decide (code ≤ 0x1D)) = false := by simpa using letter
    simp only [letter, if_false, false_or, small, Bool.or_false, shifted]
    exact modifiers_due (report 0).toBitVec

/-! ## The keys that are pressed -/

theorem mem_pressed (mem : code ∈ pressed previous report) : 4 ≤ code ∧ code ≤ capsLockCode := by
  rw [pressed, List.mem_dedup, List.mem_filter] at mem
  simp only [Bool.and_eq_true, decide_eq_true_eq] at mem
  exact mem.2.1

/-- The characters that are due. -/
def dueChars (caps : Bool) (previous report : Report) : List UInt8 :=
  ((pressed previous report).filter (· != capsLockCode)).map (dueChar caps report)

/-- Nothing is due where no key is pressed. -/
theorem nothing_due_iff :
    ([] : List UInt8).Perm (dueChars caps previous report) ∧ capsLockCode ∉ pressed previous report ↔
      pressed previous report = [] := by
  constructor
  · intro ⟨empty, unlocked⟩
    rw [List.nil_perm, dueChars, List.map_eq_nil_iff, List.filter_eq_nil_iff] at empty
    rw [List.eq_nil_iff_forall_not_mem]
    intro key mem
    have lock : key = capsLockCode := by simpa using empty key mem
    exact unlocked (lock ▸ mem)
  · intro empty
    simp [dueChars, empty]

/-- Only the caps lock key is pressed where nothing but its toggle is due. -/
theorem toggle_due_iff :
    ([] : List UInt8).Perm (dueChars caps previous report) ∧ capsLockCode ∈ pressed previous report ↔
      pressed previous report = [capsLockCode] := by
  constructor
  · intro ⟨empty, locked⟩
    rw [List.nil_perm, dueChars, List.map_eq_nil_iff, List.filter_eq_nil_iff] at empty
    rw [← List.perm_singleton]
    apply (List.perm_ext_iff_of_nodup (List.nodup_dedup _) (List.nodup_singleton _)).mpr
    intro key
    rw [List.mem_singleton]
    constructor
    · intro mem
      simpa using empty key mem
    · rintro rfl
      exact locked
  · intro only
    simp [dueChars, only]

/-- One character is due where one key with this character is pressed. -/
theorem char_due_iff {char : UInt8} (ne : char ≠ 1) :
    [char].Perm (dueChars caps previous report) ∧ capsLockCode ∉ pressed previous report ↔
      ∃ key, pressed previous report = [key] ∧ dueChar caps report key = char := by
  constructor
  · intro ⟨one, unlocked⟩
    have all : (pressed previous report).filter (· != capsLockCode) = pressed previous report := by
      rw [List.filter_eq_self]
      intro key mem
      rw [bne_iff_ne]
      rintro rfl
      exact unlocked mem
    rw [dueChars, all, List.singleton_perm, eq_comm, List.map_eq_singleton_iff] at one
    exact one
  · rintro ⟨key, only, same⟩
    have known : key ≤ capsLockCode := (mem_pressed (only ▸ List.mem_singleton_self key)).2
    have other : key ≠ capsLockCode := by
      intro lock
      exact ne (same.symm.trans ((dueChar_eq_one known).mpr lock))
    simp [dueChars, only, other, other.symm, same]

/-! ## One report -/

variable {typing : Typing}

/-- A report whose last slot says nothing new. -/
theorem completes_still (inv : TypingInv typing)
    (still : getKeyCode report = getKeyCode typing.previous ∨ getKeyCode report = 0) :
    (typing.completes beyond report).1 = [] ∧
      (typing.completes beyond report).2.capsLock = typing.keyboard.capsLock ∧
      readCode (typing.received report) = none := by
  have zero : (newKeyCode (typing.received report)).1 = 0 ∧
      (newKeyCode (typing.received report)).2.capsLock = typing.keyboard.capsLock := by
    rw [newKeyCode]
    split
    · exact ⟨rfl, rfl⟩
    · rename_i new
      refine ⟨still.resolve_left fun same => new ?_, rfl⟩
      exact same.trans inv.lastPhyCode.symm
  have all : (1 : Int) ≠ 0 ∧ reportSize = reportSize := by decide
  rw [Typing.completes, keyboardCompletion, if_pos all]
  simp [zero, readCode]

/-- A report whose last slot has another key: an event of that key. -/
theorem completes_event (inv : TypingInv typing) (other : getKeyCode report ≠ getKeyCode typing.previous)
    (used : getKeyCode report ≠ 0) :
    typing.completes beyond report = generateKeyEvent beyond (getKeyCode report)
        { typing.received report with lastPhyCode := getKeyCode report } ∧
      readCode (typing.received report) =
        if getKeyCode report ≤ capsLockCode then some (getKeyCode report) else none := by
  have new : newKeyCode (typing.received report) =
      (getKeyCode report, { typing.received report with lastPhyCode := getKeyCode report }) := by
    rw [newKeyCode, if_neg]
    · rfl
    · intro same
      exact other (same.trans inv.lastPhyCode)
  have all : (1 : Int) ≠ 0 ∧ reportSize = reportSize := by decide
  rw [Typing.completes, keyboardCompletion, if_pos all, readCode, new]
  simp [used]

theorem generateKeyEvent_keeps :
    (generateKeyEvent beyond code keyboard).2.keyPressed = keyboard.keyPressed ∧
      (generateKeyEvent beyond code keyboard).2.lastPhyCode = keyboard.lastPhyCode := by
  rw [generateKeyEvent]
  split
  · simp only
    split
    · exact ⟨rfl, rfl⟩
    · exact ⟨rfl, rfl⟩
  · exact ⟨rfl, rfl⟩

/-- The invariant holds after every report. -/
theorem TypingInv.step (inv : TypingInv typing) (report : Report) :
    TypingInv ⟨(typing.completes beyond report).2, report⟩ := by
  have all : (1 : Int) ≠ 0 ∧ reportSize = reportSize := by decide
  rw [Typing.completes, keyboardCompletion, if_pos all, newKeyCode]
  by_cases same : getKeyCode (typing.received report).reportBuffer = (typing.received report).lastPhyCode
  · rw [if_pos same]
    exact ⟨inv.keyPressed, same.symm⟩
  · rw [if_neg same]
    simp only
    split
    · obtain ⟨pressed, last⟩ := @generateKeyEvent_keeps beyond (getKeyCode report)
        { typing.received report with lastPhyCode := getKeyCode report }
      exact ⟨pressed.trans inv.keyPressed, last⟩
    · exact ⟨inv.keyPressed, rfl⟩

theorem onlyKey_iff {keys : List UInt8} :
    OnlyKey caps report code keys ↔ ∃ key, keys = [key] ∧ dueChar caps report key = dueChar caps report code := by
  cases keys with
  | nil => simp [OnlyKey]
  | cons first rest =>
    cases rest with
    | nil => simp [OnlyKey]
    | cons second rest => simp [OnlyKey]

/-- The event of a key that is looked up in the column that is due. -/
theorem generateKeyEvent_due (known : code ≤ capsLockCode) (registered : keyboard.keyPressed = true)
    (due : keyColumn code keyboard = dueColumn caps report code) :
    generateKeyEvent beyond code keyboard =
      if code = capsLockCode then ([], { keyboard with capsLock := !keyboard.capsLock })
      else ([dueChar caps report code], keyboard) := by
  have inside : code ≤ 0x39 := known
  rw [generateKeyEvent, if_pos inside, due, keyMapAt_due known, registered]
  simp only [dueChar_eq_one known, if_true]

/-- Caps lock is right where it has been toggled. -/
theorem toggled_iff {locked : Prop} [Decidable locked] : (!caps) = (caps ^^ decide locked) ↔ locked := by
  cases caps with
  | true => simp
  | false => simp

theorem kept_iff {locked : Prop} [Decidable locked] : caps = (caps ^^ decide locked) ↔ ¬ locked := by
  cases caps with
  | true => simp
  | false => simp

/-- The event of the caps lock key. -/
theorem lock_due_iff :
    [].Perm (dueChars caps previous report) ∧ (!caps) = (caps ^^ decide (capsLockCode ∈ pressed previous report)) ↔
      OnlyKey caps report capsLockCode (pressed previous report) := by
  rw [toggled_iff, toggle_due_iff, onlyKey_iff]
  constructor
  · intro only
    exact ⟨_, only, rfl⟩
  · rintro ⟨key, only, same⟩
    have known := (mem_pressed (only ▸ List.mem_singleton_self key)).2
    rw [(dueChar_eq_one (by decide : capsLockCode ≤ capsLockCode)).mpr rfl, dueChar_eq_one known] at same
    rw [only, same]

/-- The event of another key of the table.  The rows before the letters are empty. -/
theorem key_due_iff (known : code ≤ capsLockCode) (other : code ≠ capsLockCode) :
    [dueChar caps report code].Perm (dueChars caps previous report) ∧
        caps = (caps ^^ decide (capsLockCode ∈ pressed previous report)) ↔
      4 ≤ code ∧ OnlyKey caps report code (pressed previous report) := by
  rw [kept_iff, char_due_iff (fun lock => other ((dueChar_eq_one known).mp lock)), onlyKey_iff]
  constructor
  · rintro ⟨key, only, same⟩
    refine ⟨?_, key, only, same⟩
    obtain ⟨least, most⟩ := mem_pressed (only ▸ List.mem_singleton_self key)
    rw [← UInt8.not_lt] at least ⊢
    intro small
    rw [(dueChar_eq_zero known).mpr small, dueChar_eq_zero most] at same
    exact least same
  · intro ⟨_, only⟩
    exact only

/-- The event of a key in the table. -/
theorem event_follows_iff (inv : TypingInv typing) (other : getKeyCode report ≠ getKeyCode typing.previous)
    (used : getKeyCode report ≠ 0) (known : getKeyCode report ≤ capsLockCode) :
    KeysFollow beyond typing report ↔
      4 ≤ getKeyCode report ∧ PlainModifiers typing.keyboard.capsLock report (getKeyCode report) ∧
        OnlyKey typing.keyboard.capsLock report (getKeyCode report) (pressed typing.previous report) := by
  obtain ⟨completes, read⟩ := @completes_event beyond report typing inv other used
  rw [if_pos known] at read
  generalize getKeyCode report = code at *
  have column : (∀ key, readCode (typing.received report) = some key →
      keyColumn key (typing.received report) = dueColumn typing.keyboard.capsLock report key) ↔
      PlainModifiers typing.keyboard.capsLock report code := by
    rw [read]
    simp only [Option.some.injEq, forall_eq']
    exact keyColumn_due_iff rfl rfl
  by_cases plain : PlainModifiers typing.keyboard.capsLock report code
  · have event := @generateKeyEvent_due beyond report typing.keyboard.capsLock code
      { typing.received report with lastPhyCode := code } known inv.keyPressed ((keyColumn_due_iff rfl rfl).mpr plain)
    -- The column is right, so what remains is what is delivered and the lock.
    have whole : KeysFollow beyond typing report ↔
        (typing.completes beyond report).1.Perm (dueChars typing.keyboard.capsLock typing.previous report) ∧
          (typing.completes beyond report).2.capsLock =
            (typing.keyboard.capsLock ^^ decide (capsLockCode ∈ pressed typing.previous report)) :=
      ⟨fun follow => ⟨follow.delivered, follow.capsLock⟩, fun ⟨delivered, lock⟩ => ⟨delivered, lock, column.mpr plain⟩⟩
    rw [whole, completes, event]
    simp only [plain, true_and]
    by_cases lock : code = capsLockCode
    -- Caps lock gives no character.
    · have least : 4 ≤ code := by
        rw [lock]
        decide
      rw [if_pos lock, lock]
      simp only [lock ▸ least, true_and]
      exact lock_due_iff
    · rw [if_neg lock]
      exact key_due_iff known lock
  · simp only [plain, false_and, and_false, iff_false]
    intro follow
    exact plain (column.mp follow.column)

/-- A report gives what is due exactly where its keys fit. -/
theorem keysFollow_iff (inv : TypingInv typing) : KeysFollow beyond typing report ↔ KeysFit typing report := by
  -- A report that makes no event follows the keys if no key has been pressed.
  have nothing (delivered : (typing.completes beyond report).1 = [])
      (lock : (typing.completes beyond report).2.capsLock = typing.keyboard.capsLock)
      (read : readCode (typing.received report) = none) :
      KeysFollow beyond typing report ↔ pressed typing.previous report = [] := by
    rw [← @nothing_due_iff report typing.previous typing.keyboard.capsLock, ← @kept_iff typing.keyboard.capsLock]
    constructor
    · intro follow
      exact ⟨delivered ▸ follow.delivered, lock.symm.trans follow.capsLock⟩
    · intro ⟨due, kept⟩
      exact ⟨delivered.symm ▸ due, lock.trans kept, by simp [read]⟩
  rw [KeysFit]
  by_cases still : getKeyCode report = getKeyCode typing.previous ∨ getKeyCode report = 0
  · obtain ⟨delivered, lock, read⟩ := @completes_still beyond report typing inv still
    rw [if_pos (or_assoc.mp (.inl still))]
    exact nothing delivered lock read
  · rw [not_or] at still
    obtain ⟨completes, read⟩ := @completes_event beyond report typing inv still.1 still.2
    by_cases past : capsLockCode < getKeyCode report
    · rw [if_pos (.inr (.inr past))]
      have outside : ¬ getKeyCode report ≤ 0x39 := UInt8.not_le.mpr past
      rw [generateKeyEvent, if_neg outside] at completes
      rw [if_neg (UInt8.not_le.mpr past)] at read
      exact nothing (congrArg Prod.fst completes) (by rw [completes]; rfl) read
    · rw [if_neg (not_or.mpr ⟨still.1, not_or.mpr ⟨still.2, past⟩⟩)]
      exact event_follows_iff inv still.1 still.2 (UInt8.not_lt.mp past)

/-- Along every sequence of reports, the characters are those of the keys that are pressed, in the
    columns that are due, if and only if the keys of every report fit. -/
theorem key_events_iff (beyond : Nat → UInt8) (reports : List Report) :
    Along (typingStep beyond) (KeysFollow beyond) reports { keyboard := keyboardUp } ↔
      Along (typingStep beyond) KeysFit reports { keyboard := keyboardUp } := by
  have all : Along (typingStep beyond) (fun _ _ => True) reports { keyboard := keyboardUp } :=
    .of_forall_mem fun _ _ => trivial
  apply all.congr TypingInv ⟨rfl, rfl⟩
  intro typing report inv _
  refine ⟨keysFollow_iff inv, fun _ next step => ?_⟩
  obtain rfl := Option.some.inj step
  exact inv.step report

/-! ## Two keys at once -/

/-- A report with two keys in the first slots. -/
def twoKeys (first second : UInt8) : Report := fun slot => if slot = 2 then first else if slot = 3 then second else 0

/-- Where two keys are pressed at once, the first of them gives no character. -/
theorem key_events_missed :
    ¬ ∀ (beyond : Nat → UInt8) (reports : List Report),
      Along (typingStep beyond) (KeysFollow beyond) reports { keyboard := keyboardUp } := by
  intro follow
  have both := (follow (fun _ => 0) [twoKeys 4 5]).1.delivered
  exact absurd both.length_eq (by decide)

end ComputerSystems.Verified
