/-
# DeltaTape.Proofs.ControlSequences — values printed as characters, and those that are lost

Whatever is printed passes through one place that takes control sequences for terminal
commands and leaves them out.  Characters made of values pass through it like any others.  So
not every value has its character printed: a run of values that happens to spell a control
sequence is lost as a whole, and no other value is.

What is left of a text is said here without the pass that computes it (`Stripped`): wherever a
control sequence begins it is passed over, and every other character stays.

* `strip_pass` and `strip_stay`: the pass over a control sequence, and over the beginning of
  one that comes to nothing;
* `stripped_iff`: so the pass leaves exactly what is to be left;
* `strip_eq_self_iff`: and that is all of a text exactly when no control sequence is in it;
* `text_of_replay`: what a call of `replay` prints as characters.
-/
import Mathlib
import DeltaTape.Proofs.ReplayOutcome

namespace DeltaTape

set_option autoImplicit false

namespace Text.Plain

/-- An escape character, an opening bracket, any number of parameters, and a letter. -/
inductive ControlSequence : List Char → Prop
  | spelled {parameters : List Char} {letter : Char}
      (all : ∀ c ∈ parameters, isParameter c = true) (ends : letter.isAlpha = true) :
      ControlSequence (escape :: '[' :: (parameters ++ [letter]))

/-- Whether a control sequence begins a text. -/
def Begins (text : List Char) : Prop := ∃ sequence rest, ControlSequence sequence ∧
  text = sequence ++ rest

/-- What is left of a text that is read once from left to right: a control sequence is passed
over where it begins, and every other character stays. -/
inductive Stripped : List Char → List Char → Prop
  | nil : Stripped [] []
  | pass {sequence rest left : List Char} (control : ControlSequence sequence)
      (onward : Stripped rest left) : Stripped (sequence ++ rest) left
  | stay {c : Char} {rest left : List Char} (plain : ¬ Begins (c :: rest))
      (onward : Stripped rest left) : Stripped (c :: rest) (c :: left)

theorem ControlSequence.length_pos {sequence : List Char} (control : ControlSequence sequence) :
    0 < sequence.length := by
  cases control
  simp

/-! ## The pass from left to right -/

/-- What is held back of a control sequence that is not complete, last character first. -/
inductive Held : List Char → Prop
  | nothing : Held []
  | escaped : Held [escape]
  | opened {parameters : List Char} (all : ∀ c ∈ parameters, isParameter c = true) :
      Held (parameters ++ ['[', escape])

theorem progress_opened (parameters : List Char) (c : Char) :
    progress (parameters ++ ['[', escape]) c =
      if isParameter c then .growing else if c.isAlpha then .complete else .broken := by
  cases parameters with
  | nil => rfl
  | cons _ parameters => cases parameters <;> rfl

/-- Parameters are not letters. -/
theorem isParameter_of_isAlpha {c : Char} (letter : c.isAlpha = true) : isParameter c = false := by
  by_contra parameter
  simp only [isParameter, Bool.not_eq_false, Bool.or_eq_true, decide_eq_true_eq] at parameter
  rcases parameter with (digit | rfl) | rfl
  · simp only [Char.isAlpha, Char.isUpper, Char.isLower, Bool.or_eq_true, Bool.and_eq_true,
      decide_eq_true_eq, UInt32.le_iff_toNat_le] at letter
    obtain ⟨low, high⟩ := Char.isDigit_iff_toNat.mp digit
    have code : c.toNat = c.val.toNat := rfl
    have nine : '9'.toNat = 0x39 := rfl
    have capital : 'A'.val.toNat = 0x41 := rfl
    have small : 'a'.val.toNat = 0x61 := rfl
    omega
  · exact absurd letter (by decide)
  · exact absurd letter (by decide)

/-- Behind the bracket, parameters are held back. -/
theorem strip_parameters {more : List Char} (all : ∀ c ∈ more, isParameter c = true)
    (parameters rest : List Char) :
    strip (parameters ++ ['[', escape]) (more ++ rest) =
      strip (more.reverse ++ parameters ++ ['[', escape]) rest := by
  induction more generalizing parameters with
  | nil => rfl
  | cons c more ih =>
      have later := ih (fun c' mem => all c' (List.mem_cons_of_mem c mem)) (c :: parameters)
      rw [List.cons_append, strip, progress_opened, if_pos (all c (by simp))]
      simpa using later

/-- A control sequence is passed over. -/
theorem strip_pass {sequence : List Char} (control : ControlSequence sequence)
    (rest : List Char) : strip [] (sequence ++ rest) = strip [] rest := by
  cases control with
  | @spelled parameters letter all ends =>
      have held := strip_parameters all [] (letter :: rest)
      rw [List.nil_append, List.append_nil] at held
      have begun : strip [] (escape :: '[' :: (parameters ++ letter :: rest)) =
          strip ['[', escape] (parameters ++ letter :: rest) := by
        simp [strip, progress]
      rw [List.cons_append, List.cons_append, List.append_assoc, List.singleton_append, begun,
        held, strip, progress_opened, if_neg (by simp [isParameter_of_isAlpha ends]), if_pos ends]

/-- A held beginning grows by what continues it. -/
theorem Held.grow {held : List Char} (holds : Held held) {c : Char}
    (grows : progress held c = .growing) : Held (c :: held) := by
  cases holds with
  | nothing =>
      have first : c = escape := by simpa [progress] using grows
      exact first ▸ .escaped
  | escaped =>
      have second : c = '[' := by simpa [progress] using grows
      have opened : Held ([] ++ ['[', escape]) := .opened (by simp)
      exact second ▸ opened
  | @opened parameters all =>
      have more : isParameter c = true := by
        rw [progress_opened] at grows
        grind
      have opened : Held ((c :: parameters) ++ ['[', escape]) :=
        .opened (by simpa using ⟨more, all⟩)
      exact opened

/-- A held beginning is completed to a control sequence. -/
theorem Held.complete {held : List Char} (holds : Held held) {c : Char}
    (ends : progress held c = .complete) : ControlSequence (held.reverse ++ [c]) := by
  cases holds with
  | nothing =>
      simp only [progress] at ends
      split at ends <;> cases ends
  | escaped =>
      simp only [progress] at ends
      split at ends <;> cases ends
  | @opened parameters all =>
      have letter : c.isAlpha = true := by
        rw [progress_opened] at ends
        grind
      have spelled : ControlSequence (escape :: '[' :: (parameters.reverse ++ [c])) :=
        .spelled (by simpa using all) letter
      simpa using spelled

/-- An escape character never continues a beginning that is held. -/
theorem Held.ne_escape {held : List Char} (holds : Held held) (some : held ≠ []) {c : Char}
    (grows : progress held c = .growing) : c ≠ escape := by
  rintro rfl
  cases holds with
  | nothing => exact some rfl
  | escaped => cases grows
  | opened all =>
      rw [progress_opened] at grows
      cases grows

/-- What is held back of anything but a control sequence stays, and the pass goes on behind
it as if nothing had been held. -/
theorem strip_stay {held : List Char} (holds : Held held) {rest : List Char}
    (plain : ¬ Begins (held.reverse ++ rest)) :
    strip held rest = held.reverse ++ strip [] rest := by
  induction rest generalizing held with
  | nil => simp [strip]
  | cons c rest ih =>
      by_cases nothing : held = []
      · rw [nothing]
        rfl
      · rw [strip]
        cases step : progress held c with
        | growing =>
            -- The character is held back now and stays in the end; by itself it would stay at
            -- once, since it begins nothing.
            have later := ih (holds.grow step) (by simpa using plain)
            have other := holds.ne_escape nothing step
            simp [later, strip, progress, other]
        | complete =>
            refine absurd ⟨held.reverse ++ [c], rest, holds.complete step, ?_⟩ plain
            simp
        | broken =>
            by_cases begins : c = escape
            · simp [strip, progress, begins]
            · simp [strip, progress, begins]

/-! ## What is left -/

theorem exists_stripped (text : List Char) : ∃ left, Stripped text left := by
  induction length : text.length using Nat.strongRecOn generalizing text with
  | _ n ih =>
    by_cases begins : Begins text
    · obtain ⟨sequence, rest, control, rfl⟩ := begins
      have shorter : rest.length < n := by
        have := control.length_pos
        rw [← length, List.length_append]
        omega
      obtain ⟨left, onward⟩ := ih _ shorter rest rfl
      exact ⟨left, .pass control onward⟩
    · cases text with
      | nil => exact ⟨[], .nil⟩
      | cons c rest =>
          obtain ⟨left, onward⟩ := ih rest.length (by simp [← length]) rest rfl
          exact ⟨c :: left, .stay begins onward⟩

theorem Stripped.eq_strip {text left : List Char} (stripped : Stripped text left) :
    left = strip [] text := by
  induction stripped with
  | nil => rfl
  | pass control onward ih => rw [strip_pass control, ih]
  | @stay c rest left plain onward ih =>
      by_cases begins : c = escape
      -- Only an escape character is held back before it is known to stay.
      · subst begins
        have stays : strip [escape] rest = [escape] ++ strip [] rest :=
          strip_stay .escaped (by simpa using plain)
        simp [strip, progress, stays, ih]
      · simp [strip, progress, begins, ih]

/-- The pass leaves of a text exactly what is to be left of it. -/
theorem stripped_iff {text left : List Char} : Stripped text left ↔ left = strip [] text := by
  constructor
  · exact Stripped.eq_strip
  · rintro rfl
    obtain ⟨left, stripped⟩ := exists_stripped text
    rwa [← stripped.eq_strip]

theorem Stripped.length_le {text left : List Char} (stripped : Stripped text left) :
    left.length ≤ text.length := by
  induction stripped with
  | nil => exact le_rfl
  | pass control onward ih =>
      rw [List.length_append]
      omega
  | stay plain onward ih => simpa using ih

/-- A control sequence anywhere in a text makes it shorter. -/
theorem Stripped.length_lt {text left sequence : List Char} (stripped : Stripped text left)
    (control : ControlSequence sequence) (within : sequence <:+: text) :
    left.length < text.length := by
  induction stripped with
  | nil =>
      have nothing : sequence = [] := List.infix_nil.mp within
      have := control.length_pos
      simp [nothing] at this
  | pass control' onward ih =>
      have shorter := onward.length_le
      have := control'.length_pos
      rw [List.length_append]
      omega
  | @stay c rest left plain onward ih =>
      rcases List.infix_cons_iff.mp within with ⟨more, here⟩ | later
      · exact absurd ⟨sequence, more, control, here.symm⟩ plain
      · simpa using ih later

/-- All of a text is left exactly when no control sequence is in it. -/
theorem strip_eq_self_iff {text : List Char} :
    strip [] text = text ↔ ∀ sequence, ControlSequence sequence → ¬ sequence <:+: text := by
  constructor
  · intro same sequence control within
    have shorter := (stripped_iff.mpr rfl : Stripped text _).length_lt control within
    rw [same] at shorter
    exact lt_irrefl _ shorter
  · intro none
    suffices all : Stripped text text from all.eq_strip.symm
    induction text with
    | nil => exact .nil
    | cons c rest ih =>
        refine .stay ?_ (ih fun sequence control within => none sequence control ?_)
        · rintro ⟨sequence, more, control, same⟩
          exact none sequence control ⟨[], more, by simpa using same.symm⟩
        · exact List.infix_cons within

end Text.Plain

namespace Command

/-- The character of a value has its remainder for a code. -/
theorem toNat_character (v : Int) : ((Char.ofNat (v.emod 256).toNat).toNat : Int) = v % 256 := by
  have low : 0 ≤ v % 256 := Int.emod_nonneg v (by decide)
  have high : v % 256 < 256 := Int.emod_lt_of_pos v (by decide)
  have code : (v.emod 256).toNat = (v % 256).toNat := rfl
  have valid : (v % 256).toNat.isValidChar := Or.inl (by omega)
  rw [code, Char.toNat_ofNat, if_pos valid]
  omega

/-- **Values as characters.**  Of a file that is there and whose long form is accepted, a call
that prints characters makes one of each value: the one whose code is the remainder modulo
256.  It ends well, and prints what is left of these characters without the control sequences
among them; so it prints one character for each value exactly when there are none. -/
theorem text_of_replay {t : FileTree} {cwd : Location} {call : List String} {file : String}
    {bytes : List UInt8} {values : List Int} (asked : Replay.Asks call file true false)
    (there : Leads t cwd file bytes)
    (accepted : LongForm.replay (longText bytes) (Path.ofText file).render = .ok values) :
    ∃ characters printed : List Char,
      characters.map (fun c => (c.toNat : Int)) = values.map (· % 256) ∧
      run t cwd call = ⟨.success, String.ofList printed, "", t⟩ ∧
      (∀ left, Text.Plain.Stripped characters left ↔ left = printed) ∧
      (printed = characters ↔
        ∀ sequence, Text.Plain.ControlSequence sequence → ¬ sequence <:+: characters) := by
  refine ⟨values.map fun v => Char.ofNat (v.emod 256).toNat, _, ?_, ?_,
    fun left => Text.Plain.stripped_iff, Text.Plain.strip_eq_self_iff⟩
  · simp only [List.map_map, Function.comp_def, toNat_character]
  · rw [Replay.run_of_asks asked there]
    simp only [Replay.Request.run, Replay.readValues_of_leads there, accepted, Except.mapError,
      Replay.Request.opening, Replay.characters, Text.plain, Outcome.printed, if_true,
      Bool.false_eq_true, if_false, String.empty_append, String.toList_ofList]

/-- A long form whose six values spell a word of two letters, with a change of weight between
them. -/
def boldFace : List UInt8 := Text.Utf8.encode "72+45-64+42-60+4-"

def boldTree : FileTree := FileTree.root.set ["a"] (.file boldFace)

def boldCall : List String := ["replay", "--text", "a"]

theorem asks_boldCall : Replay.Asks boldCall "a" true false :=
  ⟨["--text", "a"], ⟨[⟨.text, ""⟩], ["a"]⟩, by decide +kernel, by decide +kernel, rfl, rfl, rfl, rfl⟩

theorem leads_boldTree : Leads boldTree [] "a" boldFace := ⟨by decide +kernel, rfl⟩

theorem replay_boldFace :
    LongForm.replay (longText boldFace) (Path.ofText "a").render =
      .ok [72, 27, 91, 49, 109, 105] := by
  decide +kernel

/-- The two letters are printed, and the four values between them are lost. -/
theorem text_of_replay_bold :
    (∃ characters : List Char,
      characters.map (fun c => (c.toNat : Int)) = [72, 27, 91, 49, 109, 105] ∧
        Text.Plain.Stripped characters ['H', 'i']) ∧
      run boldTree [] boldCall = ⟨.success, "Hi", "", boldTree⟩ := by
  obtain ⟨characters, printed, codes, ran, left, -⟩ :=
    text_of_replay asks_boldCall leads_boldTree replay_boldFace
  have injective : Function.Injective fun c : Char => (c.toNat : Int) :=
    fun c c' same => Char.toNat_inj.mp (Int.ofNat_inj.mp same)
  have spelled : characters = ['H', '\x1b', '[', '1', 'm', 'i'] :=
    List.map_injective_iff.mpr injective (codes.trans (by decide))
  have passed : Text.Plain.Stripped characters ['H', 'i'] := by
    rw [spelled]
    exact Text.Plain.stripped_iff.mpr rfl
  refine ⟨⟨characters, codes, passed⟩, ?_⟩
  rw [ran, ← (left _).mp passed]

/-- It is not so that every value has its character printed. -/
theorem text_of_replay_incomplete :
    ¬ ∀ (t : FileTree) (cwd : Location) (call : List String) (file : String)
      (bytes : List UInt8) (values : List Int),
      Replay.Asks call file true false → Leads t cwd file bytes →
      LongForm.replay (longText bytes) (Path.ofText file).render = .ok values →
      (run t cwd call).exit = .success ∧
        (run t cwd call).stdout.toList.map (fun c => (c.toNat : Int)) = values.map (· % 256) := by
  intro complete
  obtain ⟨-, printed⟩ :=
    complete boldTree [] boldCall "a" boldFace _ asks_boldCall leads_boldTree replay_boldFace
  have fewer : (run boldTree [] boldCall).stdout.length = 2 := by decide +kernel
  have many := congrArg List.length printed
  rw [List.length_map, String.length_toList, fewer] at many
  cases many

end Command

end DeltaTape
