/-
# DeltaTape.Proofs.SourceBytes — the instructions of a file are its symbol bytes

A symbol is one ASCII byte, and no ASCII byte is ever part of anything else.  So
whatever the bytes around it are, a symbol byte is read as its symbol; and a
character put together from several bytes, or standing for broken ones, is never
a symbol.  For the second half, what is unfinished carries enough bits that no
symbol can come of it (`Unfinished.Wide`).

* `feed_spec`: one byte delivers at most its own instruction;
* `filterMap_decode`: so the bytes of a file deliver theirs, in order;
* `filterMap_textOfBytes`: and unified line ends add and remove none;
* `compileFile_symbol_bytes`: what a file compiles to is settled by its symbol bytes.
-/
import Mathlib
import DeltaTape.Proofs.Stages

namespace DeltaTape

set_option autoImplicit false

/-- The instruction a byte writes by itself. -/
def Instruction.ofByte? (byte : UInt8) : Option Instruction := ofSymbol? (Char.ofNat byte.toNat)

/-- A byte writes an instruction exactly when it is its symbol in ASCII. -/
theorem Instruction.ofByte?_eq_some {byte : UInt8} {i : Instruction} :
    ofByte? byte = some i ↔ byte.toNat = i.symbol.toNat := by
  have small : byte.toNat < 256 := byte.toNat_lt
  have code : (Char.ofNat byte.toNat).toNat = byte.toNat := by
    rw [Char.toNat_ofNat, if_pos (by simp [Nat.isValidChar]; omega)]
  rw [ofByte?, ofSymbol?_eq_some]
  constructor
  · intro same
    rw [← code, same]
  · intro same
    rw [same, Char.ofNat_toNat]

theorem Instruction.ofSymbol?_of_large {c : Char} (large : 0x80 ≤ c.toNat) :
    ofSymbol? c = none := by
  cases written : ofSymbol? c with
  | none => rfl
  | some i =>
      rw [ofSymbol?_eq_some.mp written] at large
      cases i <;> simp [symbol] at large

/-- A code that is no character reads as the null character, which is no symbol either. -/
theorem Instruction.ofSymbol?_ofNat {n : Nat} (large : 0x80 ≤ n) :
    ofSymbol? (Char.ofNat n) = none := by
  by_cases valid : n.isValidChar
  · apply ofSymbol?_of_large
    rwa [Char.toNat_ofNat, if_pos valid]
  · rw [Char.ofNat, dif_neg valid]
    rfl

namespace Text.Utf8

theorem ofSymbol?_replacement : Instruction.ofSymbol? replacement = none := rfl

/-- Enough has been read that the character is none of one byte. -/
def Unfinished.Wide (u : Unfinished) : Prop :=
  if u.more = 0 then 2 ≤ u.bits else 2 ≤ u.bits * 64 + (u.low - 0x80)

/-- The first byte of a character delivers at most its own instruction, and
leaves only what is wide. -/
theorem lead_spec (byte : UInt8) :
    (lead byte).delivered.filterMap Instruction.ofSymbol? = (Instruction.ofByte? byte).toList ∧
      ∀ u ∈ (lead byte).unfinished, u.Wide := by
  by_cases ascii : byte.toNat < 0x80
  · rw [lead_ascii ascii]
    cases written : Instruction.ofSymbol? (Char.ofNat byte.toNat) <;>
      simp [Instruction.ofByte?, written]
  · have none : Instruction.ofByte? byte = none := Instruction.ofSymbol?_ofNat (by omega)
    rw [none]
    unfold lead
    simp only [if_neg ascii]
    -- One case for each class of lead byte; the bounds of the second byte make it wide.
    repeat' split
    all_goals simp [ofSymbol?_replacement, Unfinished.Wide]
    all_goals omega

/-- Any byte delivers at most its own instruction, and leaves only what is wide. -/
theorem feed_spec {unfinished : Option Unfinished} (wide : ∀ u ∈ unfinished, u.Wide)
    (byte : UInt8) :
    (feed unfinished byte).delivered.filterMap Instruction.ofSymbol? =
        (Instruction.ofByte? byte).toList ∧
      ∀ u ∈ (feed unfinished byte).unfinished, u.Wide := by
  cases unfinished with
  | none => exact lead_spec byte
  | some u =>
      have enough : u.Wide := wide u rfl
      unfold feed
      dsimp only
      split
      · rename_i inside
        have tail := u.tail
        have none : Instruction.ofByte? byte = none := Instruction.ofSymbol?_ofNat (by omega)
        rw [none]
        unfold Unfinished.Wide at enough
        split
        · rename_i last
          rw [if_pos last] at enough
          have large : 0x80 ≤ u.bits * 64 + (byte.toNat - 0x80) := by omega
          simp [Instruction.ofSymbol?_ofNat large]
        · rename_i more goesOn
          rw [if_neg (by omega)] at enough
          have more : 2 ≤ u.bits * 64 + (byte.toNat - 0x80) := by omega
          simp only [List.filterMap_nil, Option.toList_none, Option.mem_def, Option.some.injEq,
            forall_eq', true_and, Unfinished.Wide]
          split <;> omega
      · obtain ⟨delivered, unfinished⟩ := lead_spec byte
        exact ⟨by rw [List.filterMap_cons_none ofSymbol?_replacement, delivered], unfinished⟩

theorem filterMap_decodeFrom {unfinished : Option Unfinished} (wide : ∀ u ∈ unfinished, u.Wide)
    (bytes : List UInt8) :
    (decodeFrom unfinished bytes).filterMap Instruction.ofSymbol? =
      bytes.filterMap Instruction.ofByte? := by
  induction bytes generalizing unfinished with
  | nil =>
      unfold decodeFrom
      split <;> simp [ofSymbol?_replacement]
  | cons byte bytes ih =>
      obtain ⟨delivered, left⟩ := feed_spec wide byte
      rw [decodeFrom, List.filterMap_append, delivered, ih left, List.filterMap_cons]
      cases Instruction.ofByte? byte <;> rfl

/-- Bytes read as text hold the instructions that the bytes write, in order. -/
theorem filterMap_decode (bytes : List UInt8) :
    (decode bytes).filterMap Instruction.ofSymbol? = bytes.filterMap Instruction.ofByte? :=
  filterMap_decodeFrom (by simp) bytes

end Text.Utf8

theorem Text.filterMap_unifyNewlines (text : List Char) :
    (unifyNewlines text).filterMap Instruction.ofSymbol? =
      text.filterMap Instruction.ofSymbol? := by
  have feed : Instruction.ofSymbol? '\n' = none := rfl
  have back : Instruction.ofSymbol? '\r' = none := rfl
  fun_induction unifyNewlines text with
  | case1 => rfl
  | case2 text ih => simp [feed, back, ih]
  | case3 text _ ih => simp [feed, back, ih]
  | case4 c text _ _ ih => rw [List.filterMap_cons, List.filterMap_cons, ih]

/-- The text of a file holds the instructions that its bytes write, in order. -/
theorem filterMap_textOfBytes (bytes : List UInt8) :
    (textOfBytes bytes).filterMap Instruction.ofSymbol? =
      bytes.filterMap Instruction.ofByte? := by
  rw [textOfBytes, Text.filterMap_unifyNewlines, Text.Utf8.filterMap_decode]

/-! ## The instructions of a file -/

/-- The bytes that write the eight symbols in ASCII: `+ - < > . , [ ]`. -/
def symbolBytes : List UInt8 := [0x2B, 0x2D, 0x3C, 0x3E, 0x2E, 0x2C, 0x5B, 0x5D]

/-- The byte that writes an instruction. -/
def Instruction.byte (i : Instruction) : UInt8 := UInt8.ofNat i.symbol.toNat

theorem Instruction.byte_of_ofByte? {byte : UInt8} {i : Instruction}
    (written : ofByte? byte = some i) : i.byte = byte := by
  rw [Instruction.byte, ← ofByte?_eq_some.mp written, UInt8.ofNat_toNat]

/-- The symbol bytes are the bytes that write an instruction. -/
theorem mem_symbolBytes {byte : UInt8} :
    byte ∈ symbolBytes ↔ (Instruction.ofByte? byte).isSome = true := by
  constructor
  · intro mem
    simp only [symbolBytes, List.mem_cons, List.not_mem_nil, or_false] at mem
    rcases mem with rfl | rfl | rfl | rfl | rfl | rfl | rfl | rfl <;> rfl
  · intro some
    obtain ⟨i, written⟩ := Option.isSome_iff_exists.mp some
    rw [← Instruction.byte_of_ofByte? written]
    cases i <;> decide

theorem map_byte_filterMap (bytes : List UInt8) :
    (bytes.filterMap Instruction.ofByte?).map Instruction.byte =
      bytes.filter (· ∈ symbolBytes) := by
  induction bytes with
  | nil => rfl
  | cons byte bytes ih =>
      cases written : Instruction.ofByte? byte with
      | none =>
          have comment : byte ∉ symbolBytes := by simp [mem_symbolBytes, written]
          rw [List.filterMap_cons_none written, List.filter_cons_of_neg (by simpa using comment), ih]
      | some i =>
          have symbol : byte ∈ symbolBytes := by simp [mem_symbolBytes, written]
          rw [List.filterMap_cons_some written, List.filter_cons_of_pos (by simpa using symbol),
            List.map_cons, Instruction.byte_of_ofByte? written, ih]

/-- The text of the symbol bytes alone. -/
def symbolText (bytes : List UInt8) : String :=
  String.ofList ((bytes.filter (· ∈ symbolBytes)).map fun byte => Char.ofNat byte.toNat)

/-- Without the other bytes a file has the same instructions. -/
theorem instructions_symbolText (bytes : List UInt8) (file : String) :
    Token.instructions (Token.scan (symbolText bytes) file) =
      bytes.filterMap Instruction.ofByte? := by
  rw [Token.instructions_scan, symbolText, String.toList_ofList, List.filterMap_map,
    List.filterMap_filter]
  apply List.filterMap_congr
  intro byte _
  have same : (Instruction.ofSymbol? ∘ fun byte : UInt8 => Char.ofNat byte.toNat) byte =
      Instruction.ofByte? byte := rfl
  rw [same]
  by_cases symbol : byte ∈ symbolBytes
  · simp [symbol]
  · have none : Instruction.ofByte? byte = none := by simpa [mem_symbolBytes] using symbol
    simp [symbol, none]

/-- The instructions of a file are those that its bytes write. -/
theorem instructions_textOfBytes (bytes : List UInt8) (file : String) :
    Token.instructions (Token.scan (String.ofList (textOfBytes bytes)) file) =
      bytes.filterMap Instruction.ofByte? := by
  rw [Token.instructions_scan, String.toList_ofList, filterMap_textOfBytes]

/-- **Nothing lost, nothing invented.**  A file that can be read compiles as the
source that its text is, whatever its bytes.  The instructions of that source are
the symbol bytes of the file, in order; so the tokens are as many, and the long
form is that of the text of these bytes alone. -/
theorem compileFile_symbol_bytes {t : FileTree} {cwd : Location} {p : Path} {bytes : List UInt8}
    (clean : p.hasNull = false) (stored : t.readFile cwd p = .ok bytes) (o : Options) :
    compileFile o t cwd p =
        compileSource o t cwd (String.ofList (textOfBytes bytes)) p.render ∧
      (Token.instructions (Token.scan (String.ofList (textOfBytes bytes)) p.render)).map
          Instruction.byte =
        bytes.filter (· ∈ symbolBytes) ∧
      (∀ result, (compileFile o t cwd p).result = .ok result →
        result.tokenCount = (bytes.filter (· ∈ symbolBytes)).length ∧
          compileLong (symbolText bytes) = .ok result.compiled) ∧
      (o.writeOutput = false →
        (compileFile o t cwd p).result.map Result.compiled = compileLong (symbolText bytes)) := by
  have source := compileFile_of_stored clean stored o
  have symbols : (Token.instructions (Token.scan (String.ofList (textOfBytes bytes))
      p.render)).map Instruction.byte = bytes.filter (· ∈ symbolBytes) := by
    rw [instructions_textOfBytes, map_byte_filterMap]
  have same : compileLong (String.ofList (textOfBytes bytes)) = compileLong (symbolText bytes) := by
    apply Compilation.text_congr
    rw [instructions_textOfBytes, instructions_symbolText]
  refine ⟨source, symbols, ?_, ?_⟩
  · intro result succeeded
    rw [source] at succeeded
    constructor
    · rw [compileSource_tokenCount succeeded, ← symbols, Token.instructions, List.length_map,
        List.length_map]
    · rw [← same]
      exact compileSource_compiled succeeded
  · intro unwritten
    rw [source, compileSource_unwritten unwritten, same]

/-- A source of four instructions between a character that breaks off, a long
spelling of a plus, a surrogate, a code past the last and a carriage return. -/
def brokenSource : List UInt8 :=
  [0xE2, 0x82, 0x2B, 0xC0, 0xAB, 0x2E, 0xED, 0xA0, 0x80, 0xF4, 0x90, 0x2D, 0x0D, 0x0A, 0xF0, 0x9F,
    0x98, 0x2E]

def brokenTree : FileTree := FileTree.root.set ["a.bf"] (.file brokenSource)

/-- Options that leave the tree alone. -/
def brokenOptions : Options := { Options.at [] with writeOutput := false }

/-- The four instructions survive, and nothing else counts. -/
theorem compileFile_symbol_bytes_broken :
    ∃ result, (compileFile brokenOptions brokenTree [] ⟨0, ["a.bf"]⟩).result = .ok result ∧
      result.tokenCount = 4 ∧ result.compiled = "1+1-" := by
  have stored : brokenTree.readFile [] ⟨0, ["a.bf"]⟩ = .ok brokenSource := by decide +kernel
  have long : compileLong (symbolText brokenSource) = .ok "1+1-" := by decide +kernel
  obtain ⟨-, -, counted, compiled⟩ :=
    compileFile_symbol_bytes (p := ⟨0, ["a.bf"]⟩) (by decide +kernel) stored brokenOptions
  have succeeded := compiled rfl
  rw [long] at succeeded
  cases done : (compileFile brokenOptions brokenTree [] ⟨0, ["a.bf"]⟩).result with
  | error f =>
      rw [done] at succeeded
      cases succeeded
  | ok result =>
      obtain ⟨count, text⟩ := counted result done
      rw [long] at text
      refine ⟨result, rfl, ?_, (Except.ok.inj text).symm⟩
      rw [count]
      decide

end DeltaTape
