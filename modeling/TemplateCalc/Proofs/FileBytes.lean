import TemplateCalc.Proofs.Bytes
import TemplateCalc.Session.Operand

/-!
Bytes of the file.

Up to eight bytes of the file are read as an integer, the lowest byte first. A read succeeds exactly if
all of its bytes are in the file, and two reads in a row give the parts of the read over both.
-/

set_option autoImplicit false

namespace TemplateCalc

/-! ### Rows of the file -/

namespace SymbolTable

variable (t : SymbolTable) (start count : Nat)

def byteAt (t : SymbolTable) (i : Nat) : Nat :=
  (t.data.getD i 0).toNat

def fileRow : List UInt8 :=
  (t.data.toList.drop start).take count

theorem readBytes_of_inside {address : Int64} {count : Nat} (least : 0 ≤ address.toInt)
    (most : address.toInt + count ≤ t.data.size) :
    t.readBytes address count = .ok (t.fileRow address.toInt.toNat count) := by
  have nonneg : ¬address < 0 := Int64.not_lt.mpr (Int64.le_iff_toInt_le.mpr least)
  have inside : ¬(address < 0 ∨ address.toInt.toNat + count > t.data.size) := by
    rintro (negative | beyond)
    · exact nonneg negative
    · omega
  rw [readBytes, if_neg inside, Array.toList_extract, List.extract_eq_take_drop,
    Nat.add_sub_cancel_left]
  rfl

theorem readBytes_of_outside {address : Int64} {count : Nat}
    (outside : ¬(0 ≤ address.toInt ∧ address.toInt + count ≤ t.data.size)) :
    t.readBytes address count = .error (.host (.outsideFile address)) := by
  have beyond : address < 0 ∨ address.toInt.toNat + count > t.data.size := by
    by_cases negative : address < 0
    · exact .inl negative
    · have least : 0 ≤ address.toInt := Int64.le_iff_toInt_le.mp (Int64.not_lt.mp negative)
      omega
  rw [readBytes, if_pos beyond]

variable {t start count}

theorem length_fileRow (inside : start + count ≤ t.data.size) :
    (t.fileRow start count).length = count := by
  rw [fileRow, List.length_take, List.length_drop, Array.length_toList]
  omega

theorem getElem?_fileRow (inside : start + count ≤ t.data.size) {i : Nat} (within : i < count) :
    ((t.fileRow start count)[i]?.map UInt8.toNat).getD 0 = t.byteAt (start + i) := by
  have there : start + i < t.data.size := by omega
  rw [fileRow, List.getElem?_take_of_lt within, List.getElem?_drop, Array.getElem?_toList,
    byteAt, Array.getElem?_eq_getElem there, Array.getD_eq_getD_getElem?,
    Array.getElem?_eq_getElem there]
  rfl

theorem fileRow_add (start first second : Nat) :
    t.fileRow start (first + second) =
      t.fileRow start first ++ t.fileRow (start + first) second := by
  rw [fileRow, List.take_add, List.drop_drop]
  rfl

theorem ofBytes_fileRow (inside : start + count ≤ t.data.size) :
    Bits.ofBytes (t.fileRow start count) =
      ∑ i ∈ Finset.range count, t.byteAt (start + i) * 256 ^ i := by
  rw [Bits.ofBytes_eq_sum, length_fileRow inside]
  apply Finset.sum_congr rfl
  intro i member
  rw [getElem?_fileRow inside (Finset.mem_range.mp member)]

end SymbolTable

/-! ### Reads -/

namespace Session

variable {σ : Type} (t : SymbolTable) (dialog : Option (Dialog σ)) (now : Float) (effects : Bool)
  (s : Session σ)

def fileBytes (address count : Int64) : Except EvalError Value × Session σ :=
  applyFunction ⟨t.host, dialog, now⟩ effects .get [.int address, .int count] s

variable {address count : Int64}

theorem count_bounds : 1 ≤ count ∧ count ≤ 8 ↔ 1 ≤ count.toInt ∧ count.toInt ≤ 8 := by
  rw [Int64.le_iff_toInt_le, Int64.le_iff_toInt_le]
  rfl

theorem fileBytes_of_refused (refused : ¬(1 ≤ count.toInt ∧ count.toInt ≤ 8)) :
    fileBytes t dialog now effects s address count = (.error (.domain .byteCount), s) := by
  have outside : ¬(1 ≤ count ∧ count ≤ 8) := fun bounds => refused (count_bounds.mp bounds)
  exact congrFun (if_neg outside) s

theorem fileBytes_of_allowed (allowed : 1 ≤ count.toInt ∧ count.toInt ≤ 8) :
    fileBytes t dialog now effects s address count =
      ((t.readBytes address count.toInt.toNat).map fun row =>
        .int (Bits.wordOfBytes (row.take 8)), s) := by
  have bounds : 1 ≤ count ∧ count ≤ 8 := count_bounds.mpr allowed
  have taken : fileBytes t dialog now effects s address count = (do
      let bytes ← ofExcept (t.readBytes address count.toInt.toNat)
      return .int (Bits.wordOfBytes (bytes.take 8)) : Eval σ Value) s := congrFun (if_pos bounds) s
  rw [taken]
  cases t.readBytes address count.toInt.toNat <;> rfl

def IsByteCount (count : Int64) : Prop :=
  1 ≤ count.toInt ∧ count.toInt ≤ 8

def InFile (t : SymbolTable) (address count : Int64) : Prop :=
  0 ≤ address.toInt ∧ address.toInt + count.toInt ≤ t.data.size

theorem fileBytes_of_inside (allowed : IsByteCount count) (inside : InFile t address count) :
    ∃ r, fileBytes t dialog now effects s address count = (.ok (.int r), s) ∧
      r.toUInt64.toNat =
        Bits.ofBytes (t.fileRow address.toInt.toNat count.toInt.toNat) := by
  obtain ⟨few, many⟩ := allowed
  obtain ⟨least, most⟩ := inside
  have length : (t.fileRow address.toInt.toNat count.toInt.toNat).length = count.toInt.toNat :=
    SymbolTable.length_fileRow (by omega)
  have whole : (t.fileRow address.toInt.toNat count.toInt.toNat).take 8 = t.fileRow _ _ :=
    List.take_of_length_le (by omega)
  refine ⟨Bits.wordOfBytes (t.fileRow address.toInt.toNat count.toInt.toNat), ?_,
    Bits.toNat_wordOfBytes (by omega)⟩
  rw [fileBytes_of_allowed t dialog now effects s ⟨few, many⟩,
    t.readBytes_of_inside least (by omega)]
  simp only [Except.map, whole]

theorem fileBytes_of_outside (allowed : IsByteCount count) (outside : ¬InFile t address count) :
    fileBytes t dialog now effects s address count =
      (.error (.host (.outsideFile address)), s) := by
  obtain ⟨few, many⟩ := allowed
  have beyond : ¬(0 ≤ address.toInt ∧ address.toInt + count.toInt.toNat ≤ t.data.size) := by
    rintro ⟨least, most⟩
    exact outside ⟨least, by omega⟩
  rw [fileBytes_of_allowed t dialog now effects s ⟨few, many⟩, t.readBytes_of_outside beyond]
  rfl

/-- A read succeeds exactly if it is of one to eight bytes, all of them in the file. The result has
the bits of the sum of the bytes, each times its power of 256, and so it is put together from the
results of two reads in a row. Nothing but the result changes, and of two faults the one of the
number of bytes is reported. -/
theorem get_reads_file_bytes (address count : Int64) :
    let get := fileBytes t dialog now effects s
    ((∃ v, (get address count).1 = .ok v) ↔ IsByteCount count ∧ InFile t address count) ∧
    (IsByteCount count → InFile t address count →
      ∃ r, get address count = (.ok (.int r), s) ∧ r.toUInt64.toNat =
        ∑ i ∈ Finset.range count.toInt.toNat, t.byteAt (address.toInt.toNat + i) * 256 ^ i) ∧
    (∀ first second behind : Int64, 1 ≤ first.toInt → 1 ≤ second.toInt →
      count.toInt = first.toInt + second.toInt → count.toInt ≤ 8 →
      behind.toInt = address.toInt + first.toInt → InFile t address count →
      ∃ r low high, get address count = (.ok (.int r), s) ∧
        get address first = (.ok (.int low), s) ∧ get behind second = (.ok (.int high), s) ∧
        r.toUInt64.toNat =
          low.toUInt64.toNat + high.toUInt64.toNat * 256 ^ first.toInt.toNat) ∧
    (¬IsByteCount count → get address count = (.error (.domain .byteCount), s)) ∧
    (IsByteCount count → ¬InFile t address count →
      get address count = (.error (.host (.outsideFile address)), s)) := by
  intro get
  have reads (address count : Int64) (allowed : IsByteCount count)
      (inside : InFile t address count) :=
    fileBytes_of_inside t dialog now effects s allowed inside
  have refused (bad : ¬IsByteCount count) :
      get address count = (.error (.domain .byteCount), s) :=
    fileBytes_of_refused t dialog now effects s bad
  have outside (allowed : IsByteCount count) (bad : ¬InFile t address count) :
      get address count = (.error (.host (.outsideFile address)), s) :=
    fileBytes_of_outside t dialog now effects s allowed bad
  refine ⟨?_, ?_, ?_, refused, outside⟩
  · constructor
    · rintro ⟨v, succeeds⟩
      by_cases allowed : IsByteCount count
      · by_cases inside : InFile t address count
        · exact ⟨allowed, inside⟩
        · rw [outside allowed inside] at succeeds
          cases succeeds
      · rw [refused allowed] at succeeds
        cases succeeds
    · rintro ⟨allowed, inside⟩
      obtain ⟨r, found, _⟩ := reads address count allowed inside
      exact ⟨.int r, congrArg Prod.fst found⟩
  · intro allowed inside
    obtain ⟨r, found, value⟩ := reads address count allowed inside
    obtain ⟨few, many⟩ := allowed
    obtain ⟨least, most⟩ := inside
    rw [SymbolTable.ofBytes_fileRow (by omega)] at value
    exact ⟨r, found, value⟩
  · intro first second behind some others sum small next inside
    obtain ⟨least, most⟩ := inside
    obtain ⟨r, found, value⟩ := reads address count ⟨by omega, small⟩ ⟨least, most⟩
    obtain ⟨low, foundLow, valueLow⟩ := reads address first ⟨some, by omega⟩
      ⟨least, by omega⟩
    obtain ⟨high, foundHigh, valueHigh⟩ := reads behind second ⟨others, by omega⟩
      ⟨by omega, by omega⟩
    refine ⟨r, low, high, found, foundLow, foundHigh, ?_⟩
    -- the row of all bytes is the first row with the second one behind it
    have parts : count.toInt.toNat = first.toInt.toNat + second.toInt.toNat := by omega
    have place : behind.toInt.toNat = address.toInt.toNat + first.toInt.toNat := by omega
    have length : (t.fileRow address.toInt.toNat first.toInt.toNat).length = first.toInt.toNat :=
      SymbolTable.length_fileRow (by omega)
    rw [value, valueLow, valueHigh, parts, place, SymbolTable.fileRow_add, Bits.ofBytes_append,
      length, Nat.mul_comm (256 ^ first.toInt.toNat)]

/-- Eight bytes with the highest bit set, the same in two parts, an address close to the limit of
integers, and two faults at once. -/
theorem eight_bytes_at_end_of_file :
    let t : SymbolTable := { data := #[9, 1, 2, 3, 4, 5, 6, 7, 255] }
    let s : Session Unit := ⟨.finish, [], none, {}, Random.ofSeed 0, (), 0, #[]⟩
    let get := fileBytes t none 0 true s
    (∃ r, get 1 8 = (.ok (.int r), s) ∧ r.toUInt64.toNat = 0xFF07060504030201) ∧
      (∃ r low high, get 1 8 = (.ok (.int r), s) ∧ get 1 3 = (.ok (.int low), s) ∧
        get 4 5 = (.ok (.int high), s) ∧
        r.toUInt64.toNat = low.toUInt64.toNat + high.toUInt64.toNat * 256 ^ 3) ∧
      get Int64.maxValue 8 = (.error (.host (.outsideFile Int64.maxValue)), s) ∧
      get (-1) 9 = (.error (.domain .byteCount), s) := by
  intro t s get
  have allowed : IsByteCount 8 := ⟨by decide, by decide⟩
  have inside : InFile t 1 8 := ⟨by decide, by decide⟩
  obtain ⟨_, value, parts, _⟩ := get_reads_file_bytes t none 0 true s 1 8
  obtain ⟨_, _, _, _, outside⟩ := get_reads_file_bytes t none 0 true s Int64.maxValue 8
  obtain ⟨_, _, _, refused, _⟩ := get_reads_file_bytes t none 0 true s (-1) 9
  refine ⟨?_, ?_, outside allowed ?_, refused ?_⟩
  · obtain ⟨r, found, sum⟩ := value allowed inside
    exact ⟨r, found, sum.trans (by decide)⟩
  · exact parts 3 5 4 (by decide) (by decide) (by decide) (by decide) (by decide) inside
  · rintro ⟨_, most⟩
    exact absurd most (by decide)
  · rintro ⟨_, many⟩
    exact absurd many (by decide)

end Session

end TemplateCalc
