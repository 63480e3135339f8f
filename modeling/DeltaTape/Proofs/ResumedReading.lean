/-
# DeltaTape.Proofs.ResumedReading — reading that is broken off and taken up again

All that a reader knows is the spot where it stands and what lies ahead.  So it makes
no difference in which portions its tokens are asked for: at any time it has read
some beginning of the source, has counted its way to the end of it, and has delivered
the tokens of this beginning (`Served`).

Whoever asks holds an iterator, which may be thrown away for a new one, and which
delivers nothing more once it has come to its end.  An iterator comes to its end only
where nothing lies ahead, so it need not be remembered (`Iteration.ask_eq`).

* `tokensFrom_append`: a text may be cut anywhere;
* `Served.pull` and `Served.pulls`: one pull, and any sequence of them;
* `pull_eq_due`: what a pull delivers is told by what is left;
* `delivered_of_pulls`: nothing is lost, nothing is repeated, and the end is final.
-/
import Mathlib
import DeltaTape.Token

namespace DeltaTape.Reader

set_option autoImplicit false

/-! ## What lies behind a reader -/

/-- The tokens of a text that is cut in two: the second part is read from the spot
where the first part ends. -/
theorem tokensFrom_append (file : String) (s : Spot) (read ahead : List Char) :
    tokensFrom file s (read ++ ahead) =
      tokensFrom file s read ++ tokensFrom file (read.foldl Spot.after s) ahead := by
  induction read generalizing s with
  | nil => rfl
  | cons c read ih =>
      rw [List.cons_append, tokensFrom, tokensFrom, List.foldl_cons]
      cases tokenAt? file s c with
      | none => exact ih (s.after c)
      | some t => exact congrArg (t :: ·) (ih (s.after c))

/-- Up to the first token, and past it, a text is read that holds this token only. -/
theorem firstFrom_eq_some {file : String} {s s' : Spot} {cs ahead : List Char} {t : Token}
    (found : firstFrom file s cs = some (t, s', ahead)) :
    ∃ read, cs = read ++ ahead ∧ s' = read.foldl Spot.after s ∧ tokensFrom file s read = [t] := by
  induction cs generalizing s with
  | nil => cases found
  | cons c cs ih =>
      rw [firstFrom] at found
      cases here : tokenAt? file s c with
      | some t₀ =>
          rw [here] at found
          cases found
          exact ⟨[c], rfl, rfl, by rw [tokensFrom, here]; rfl⟩
      | none =>
          rw [here] at found
          obtain ⟨read, rfl, rfl, tokens⟩ := ih found
          exact ⟨c :: read, rfl, rfl, by rw [tokensFrom, here]; exact tokens⟩

/-- The reader has read some beginning of the source, stands where it ends, and has
delivered its tokens. -/
structure Served (source file : String) (delivered : List Token) (r : Reader) : Prop where
  named : r.file = file
  behind : ∃ read, source.toList = read ++ r.ahead ∧ r.spot = read.foldl Spot.after {} ∧
    delivered = tokensFrom file {} read

variable {source file : String} {delivered : List Token} {r : Reader}

theorem Served.start (source file : String) : Served source file [] (start source file) :=
  ⟨rfl, [], rfl, rfl, rfl⟩

/-- More was read, and the tokens in it were delivered. -/
theorem Served.onward (served : Served source file delivered r) {read ahead : List Char}
    {tokens : List Token} (more : r.ahead = read ++ ahead)
    (found : tokensFrom r.file r.spot read = tokens) :
    Served source file (delivered ++ tokens) ⟨r.file, read.foldl Spot.after r.spot, ahead⟩ := by
  obtain ⟨named, before, whole, reached, told⟩ := served
  refine ⟨named, before ++ read, ?_, ?_, ?_⟩
  · rw [whole, more, List.append_assoc]
  · rw [List.foldl_append, ← reached]
  · rw [tokensFrom_append, ← told, ← reached, ← named, found]

/-- One pull keeps the account. -/
theorem Served.pull (served : Served source file delivered r) (p : Pull) :
    Served source file (delivered ++ (r.pull p).1) (r.pull p).2 := by
  have all : Served source file (delivered ++ r.rest) r.finish :=
    served.onward (List.append_nil r.ahead).symm rfl
  cases p with
  | next =>
      rw [Reader.pull]
      cases asked : r.next? with
      | none =>
          -- To find that no token is left, the rest of the text was read.
          rw [next?_eq_none.mp asked] at all
          exact all
      | some answer =>
          obtain ⟨⟨t, s, ahead⟩, found, rfl⟩ := Option.map_eq_some_iff.mp asked
          obtain ⟨read, more, rfl, tokens⟩ := firstFrom_eq_some found
          exact served.onward more tokens
  | rest => exact all
  | renew => rwa [Reader.pull, List.append_nil]

/-- What has been delivered, and what is left, make up the source. -/
theorem Served.append_rest (served : Served source file delivered r) :
    delivered ++ r.rest = Token.scan source file := by
  obtain ⟨named, read, whole, reached, rfl⟩ := served
  show _ = tokensFrom file {} source.toList
  rw [whole, tokensFrom_append, Reader.rest, named, reached]

/-! ## Any sequence of pulls -/

/-- What a sequence of pulls delivers, answer by answer, and the reader after it. -/
def pulls (r : Reader) : List Pull → List (List Token) × Reader
  | [] => ([], r)
  | p :: history =>
    let later := (r.pull p).2.pulls history
    ((r.pull p).1 :: later.1, later.2)

/-- Any sequence of pulls keeps the account. -/
theorem Served.pulls (served : Served source file delivered r) (history : List Pull) :
    Served source file (delivered ++ (r.pulls history).1.flatten) (r.pulls history).2 := by
  induction history generalizing delivered r with
  | nil => rwa [Reader.pulls, List.flatten_nil, List.append_nil]
  | cons p history ih =>
      rw [Reader.pulls, List.flatten_cons, ← List.append_assoc]
      exact ih (served.pull p)

/-- What a pull is to deliver when `left` is not delivered yet. -/
def Pull.due (left : List Token) : Pull → List Token
  | next => left.take 1
  | rest => left
  | renew => []

theorem pull_eq_due (r : Reader) (p : Pull) : (r.pull p).1 = p.due r.rest := by
  cases p with
  | next =>
      rw [pull]
      cases asked : r.next? with
      | none => rw [next?_eq_none.mp asked]; rfl
      | some answer => rw [rest_of_next? asked]; rfl
  | rest => rfl
  | renew => rfl

/-- Where a pull that asks for tokens is due none, none are left. -/
theorem Pull.due_eq_nil {p : Pull} (asks : p ≠ renew) {left : List Token}
    (none : p.due left = []) : left = [] := by
  cases p with
  | next => simpa [due] using none
  | rest => exact none
  | renew => exact absurd rfl asks

/-- Once nothing is left, nothing is ever delivered again. -/
theorem pulls_of_rest_nil (ended : r.rest = []) (history : List Pull) :
    ∀ answer ∈ (r.pulls history).1, answer = [] := by
  induction history generalizing r with
  | nil => intro answer mem; cases mem
  | cons p history ih =>
      have split := pull_append_rest r p
      rw [ended] at split
      obtain ⟨nothing, after⟩ := List.append_eq_nil_iff.mp split
      intro answer mem
      rcases List.mem_cons.mp mem with rfl | later
      · exact nothing
      · exact ih after answer later

/-! ## Iterators -/

/-- A reader with the iterator that is asked for its tokens, which may have come to
its end. -/
structure Iteration where
  reader : Reader
  ended : Bool

namespace Iteration

/-- An iterator that has ended delivers nothing.  One that has not ends with the pull
that finds no more tokens, or takes all of them; a new one has not ended. -/
def ask (i : Iteration) (p : Pull) : List Token × Iteration :=
  if p = .renew then ([], ⟨i.reader, false⟩)
  else if i.ended then ([], i)
  else
    let (tokens, reader) := i.reader.pull p
    (tokens, ⟨reader, p = .rest || tokens.isEmpty⟩)

/-- What a sequence of pulls delivers. -/
def asks (i : Iteration) : List Pull → List (List Token)
  | [] => []
  | p :: history => (i.ask p).1 :: (i.ask p).2.asks history

/-- Where the iterator has ended, nothing lies ahead of the reader. -/
def Sound (i : Iteration) : Prop := i.ended = true → i.reader.ahead = []

theorem pull_of_ahead_nil {r : Reader} (done : r.ahead = []) (p : Pull) : r.pull p = ([], r) := by
  obtain ⟨file, spot, ahead⟩ := r
  cases done
  cases p <;> rfl

theorem ahead_of_pull_nil {r : Reader} {p : Pull} (asks : p ≠ .renew)
    (last : p = .rest ∨ (r.pull p).1 = []) : (r.pull p).2.ahead = [] := by
  cases p with
  | next =>
      rw [pull] at last ⊢
      cases asked : r.next? with
      | none => rfl
      | some answer => rw [asked] at last; simp at last
  | rest => rfl
  | renew => exact absurd rfl asks

/-- An iterator delivers what the reader does by itself. -/
theorem ask_eq {i : Iteration} (sound : i.Sound) (p : Pull) :
    (i.ask p).1 = (i.reader.pull p).1 ∧ (i.ask p).2.reader = (i.reader.pull p).2 ∧
      (i.ask p).2.Sound := by
  unfold ask
  split
  · rename_i renewed
    subst renewed
    exact ⟨rfl, rfl, fun ended => by cases ended⟩
  · rename_i asks
    split
    · rename_i ended
      rw [pull_of_ahead_nil (sound ended)]
      exact ⟨rfl, rfl, sound⟩
    · refine ⟨rfl, rfl, fun last => ahead_of_pull_nil asks ?_⟩
      simpa using last

theorem asks_eq {i : Iteration} (sound : i.Sound) (history : List Pull) :
    i.asks history = (i.reader.pulls history).1 := by
  induction history generalizing i with
  | nil => rfl
  | cons p history ih =>
      obtain ⟨same, reader, sound'⟩ := ask_eq sound p
      rw [asks, pulls, same, ih sound', reader]

end Iteration

/-! ## Whole sources -/

/-- **Reading can be taken up again.**  After any sequence of pulls, the reader has
read a beginning of the source, its line and column are counted from there, and the
tokens delivered so far are those of this beginning; so they are the first of the
source's tokens, lines and columns included, and the next pull delivers the next of
them.  A pull that asks for tokens delivers none only where all have been delivered,
and nothing that is asked afterwards, of a new iterator or not, delivers any.  It makes
no difference that an iterator which has come to its end stays there. -/
theorem delivered_of_pulls (source file : String) (history : List Pull) :
    ∃ answers r, (start source file).pulls history = (answers, r) ∧
      (∃ read, source.toList = read ++ r.ahead ∧ r.spot = read.foldl Spot.after {} ∧
        answers.flatten = Token.scan (String.ofList read) file) ∧
      answers.flatten <+: Token.scan source file ∧
      (∀ p, (r.pull p).1 = p.due ((Token.scan source file).drop answers.flatten.length)) ∧
      (∀ p, p ≠ .renew → (r.pull p).1 = [] →
        answers.flatten = Token.scan source file ∧
          ∀ later, ∀ answer ∈ ((r.pull p).2.pulls later).1, answer = []) ∧
      Iteration.asks ⟨start source file, false⟩ history = answers := by
  have served := (Served.start source file).pulls history
  rw [List.nil_append] at served
  have whole := served.append_rest
  refine ⟨_, _, rfl, ?_, ⟨_, whole⟩, ?_, ?_, Iteration.asks_eq (fun ended => by cases ended) history⟩
  · obtain ⟨-, read, cut, spot, tokens⟩ := served
    refine ⟨read, cut, spot, ?_⟩
    show _ = tokensFrom file {} (String.ofList read).toList
    rw [tokens, String.toList_ofList]
  · intro p
    rw [pull_eq_due, ← whole, List.drop_left]
  · intro p asks nothing
    have ended := Pull.due_eq_nil asks ((pull_eq_due _ p).symm.trans nothing)
    rw [ended, List.append_nil] at whole
    refine ⟨whole, pulls_of_rest_nil ?_⟩
    have split := pull_append_rest ((start source file).pulls history).2 p
    rw [ended] at split
    exact (List.append_eq_nil_iff.mp split).2

/-- A new iterator goes on behind the comment and the line feed that were passed. -/
example :
    ((start "+ a\n.>" "f").pulls [.next, .renew, .next, .rest, .renew, .next]).1.map
        (fun answer => answer.map fun t => (t.instruction, t.line, t.column)) =
      [[(.increment, 1, 1)], [], [(.output, 2, 1)], [(.moveRight, 2, 2)], [], []] := by
  decide +kernel

end DeltaTape.Reader
