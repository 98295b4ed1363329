import UllReceiver.Host.Console

/-!
# Runs of the console

What the console does with a stream of characters is what it does with the lines of the stream: the
parts between the newlines, without carriage returns. Only the current line and the switches are
carried from one to the next.
-/

namespace UllReceiver.Host

open Library

/-! ## Lines of the stream -/

/-- The characters that the console does not skip. -/
def typed (inputs : List ConsoleInput) : List ConsoleInput :=
  inputs.filter fun i => i.char != none && i.char != some carriageReturn

def isNewline (i : ConsoleInput) : Bool :=
  i.char == some newline

def content (i : ConsoleInput) : UInt8 :=
  i.char.getD 0

/-- A line as it was typed, and what its newline meets. -/
structure TypedLine where
  text : List UInt8
  input : ConsoleInput

/-- The complete lines of a stream. -/
def typedLines (inputs : List ConsoleInput) : List TypedLine :=
  (LineReader.lines isNewline (typed inputs)).map fun l => ⟨l.1.map content, l.2⟩

/-- What the console does with a line. -/
def carryOut (s : Switches) (l : TypedLine) : Switches × List ConsoleEffect :=
  if s.running then dispatch s l.input (.behind lineCapacity l.text) else (s, [])

/-- The switches behind some lines. -/
def switchesAfter (s : Switches) (ls : List TypedLine) : Switches :=
  ls.foldl (fun s l => (carryOut s l).1) s

/-- What each line brings about. -/
def outcomes (s : Switches) : List TypedLine → List (List ConsoleEffect)
  | [] => []
  | l :: ls => (carryOut s l).2 :: outcomes (carryOut s l).1 ls

theorem outcomes_length (s : Switches) (ls : List TypedLine) :
    (outcomes s ls).length = ls.length := by
  induction ls generalizing s with
  | nil => rfl
  | cons l ls ih =>
    show (outcomes (carryOut s l).1 ls).length + 1 = ls.length + 1
    rw [ih]

theorem outcomes_getElem? (s : Switches) (ls : List TypedLine) (n : Nat) :
    (outcomes s ls)[n]? =
      ls[n]?.map fun l => (carryOut (switchesAfter s (ls.take n)) l).2 := by
  induction ls generalizing s n with
  | nil => rfl
  | cons l ls ih =>
    cases n with
    | zero => rfl
    | succ n => exact ih (carryOut s l).1 n

/-- Switches and effects are kept together while lines are carried out. -/
theorem foldl_outcomes (s : Switches) (es : List ConsoleEffect) (ls : List TypedLine) :
    ls.foldl (fun s l => ((carryOut s.1 l).1, s.2 ++ (carryOut s.1 l).2)) (s, es) =
      (switchesAfter s ls, es ++ (outcomes s ls).flatten) := by
  induction ls generalizing s es with
  | nil => exact Prod.ext rfl (List.append_nil es).symm
  | cons l ls ih =>
    rw [List.foldl_cons, ih]
    refine Prod.ext rfl ?_
    show es ++ (carryOut s l).2 ++ (outcomes (carryOut s l).1 ls).flatten =
      es ++ ((carryOut s l).2 :: outcomes (carryOut s l).1 ls).flatten
    rw [List.flatten_cons, List.append_assoc]

/-! ## The stream -/

/-- A turn of the loop on the stream of typed characters. -/
def readTyped : (Switches × List ConsoleEffect) × LineReader UInt8 lineCapacity → ConsoleInput →
    (Switches × List ConsoleEffect) × LineReader UInt8 lineCapacity :=
  LineReader.next isNewline content fun s r i =>
    let done := if s.1.running then dispatch s.1 i r else (s.1, [])
    (done.1, s.2 ++ done.2)

/-- The console has done what the reader of the typed characters has, and as long as it runs its
buffer is the reader's. -/
structure InStep (c : Console × List ConsoleEffect)
    (s : (Switches × List ConsoleEffect) × LineReader UInt8 lineCapacity) : Prop where
  switches : c.1.switches = s.1.1
  effects : c.2 = s.1.2
  reader : c.1.switches.running = true → c.1.reader = s.2

theorem typed_skip {i : ConsoleInput} (h : i.char = none ∨ i.char = some carriageReturn) :
    typed [i] = [] := by
  apply List.filter_cons_of_neg
  rcases h with h | h
  · rw [h]
    decide
  · rw [h]
    decide

theorem typed_char {i : ConsoleInput} {char : UInt8} (h : i.char = some char)
    (hchar : char ≠ carriageReturn) : typed [i] = [i] := by
  apply List.filter_cons_of_pos
  rw [h, Bool.and_eq_true]
  exact ⟨rfl, bne_iff_ne.mpr fun hsame => hchar (Option.some.inj hsame)⟩

theorem isNewline_iff {i : ConsoleInput} {char : UInt8} (h : i.char = some char) :
    isNewline i = true ↔ char = newline := by
  unfold isNewline
  rw [h, beq_iff_eq, Option.some.injEq]

theorem InStep.step {c : Console × List ConsoleEffect}
    {s : (Switches × List ConsoleEffect) × LineReader UInt8 lineCapacity} (h : InStep c s)
    (i : ConsoleInput) :
    InStep ((c.1.step i).1, c.2 ++ (c.1.step i).2) ((typed [i]).foldl readTyped s) := by
  obtain ⟨⟨switches, reader⟩, effects⟩ := c
  obtain ⟨⟨switches', effects'⟩, reader'⟩ := s
  obtain ⟨rfl, rfl, hreader⟩ := h
  dsimp only at hreader ⊢
  unfold Console.step
  cases hchar : i.char with
  | none =>
    rw [typed_skip (.inl hchar)]
    exact ⟨rfl, List.append_nil _, hreader⟩
  | some char =>
    dsimp only
    by_cases hreturn : char = carriageReturn
    · rw [typed_skip (.inr (hreturn ▸ hchar)), if_pos hreturn]
      have hskip : (if (!switches.running) = true then ((⟨switches, reader⟩ : Console),
          ([] : List ConsoleEffect)) else (⟨switches, reader⟩, [])) = (⟨switches, reader⟩, []) :=
        ite_self _
      rw [hskip]
      exact ⟨rfl, List.append_nil _, hreader⟩
    · rw [typed_char hchar hreturn, List.foldl_cons, List.foldl_nil, if_neg hreturn]
      unfold readTyped LineReader.next
      have hnewline := isNewline_iff hchar
      -- Behind a restart nothing is read, so there the buffers may differ.
      cases hrunning : switches.running with
      | false =>
        rw [Bool.not_false, if_pos rfl]
        have hstopped : switches.running ≠ true := by rw [hrunning]; exact Bool.false_ne_true
        by_cases hend : char = newline
        · rw [if_pos (hnewline.mpr hend)]
          simp only [hrunning, Bool.false_eq_true, if_false]
          exact ⟨rfl, rfl, fun hr => absurd hr hstopped⟩
        · rw [if_neg fun hr => hend (hnewline.mp hr)]
          exact ⟨rfl, List.append_nil _, fun hr => absurd hr hstopped⟩
      | true =>
        rw [Bool.not_true, if_neg Bool.false_ne_true]
        have hsame : reader = reader' := hreader hrunning
        by_cases hend : char = newline
        · rw [if_neg (not_not_intro hend), if_pos (hnewline.mpr hend)]
          simp only [hrunning, if_true, hsame]
          exact ⟨rfl, rfl, fun _ => rfl⟩
        · rw [if_pos hend, if_neg fun hr => hend (hnewline.mp hr)]
          have hcontent : content i = char := by
            unfold content
            rw [hchar, Option.getD_some]
          rw [hcontent, hsame]
          exact ⟨rfl, List.append_nil _, fun _ => rfl⟩

theorem typed_append (xs ys : List ConsoleInput) : typed (xs ++ ys) = typed xs ++ typed ys :=
  List.filter_append ..

theorem run_inStep (inputs : List ConsoleInput) :
    InStep (Console.boot.run inputs)
      ((typed inputs).foldl readTyped ((.boot, []), .empty)) := by
  induction inputs using List.reverseRecOn with
  | nil => exact ⟨rfl, rfl, fun _ => rfl⟩
  | append_singleton xs i ih =>
    have hrun : Console.boot.run (xs ++ [i]) =
        (((Console.boot.run xs).1.step i).1,
          (Console.boot.run xs).2 ++ ((Console.boot.run xs).1.step i).2) := by
      unfold Console.run
      rw [List.foldl_append, List.foldl_cons, List.foldl_nil]
    rw [hrun, typed_append, List.foldl_append]
    exact ih.step i

/-- A run does what its lines do, one after the other. -/
theorem run_lines (inputs : List ConsoleInput) :
    (Console.boot.run inputs).1.switches = switchesAfter .boot (typedLines inputs) ∧
      (Console.boot.run inputs).2 = (outcomes .boot (typedLines inputs)).flatten := by
  have hstep := run_inStep inputs
  have hread : (typed inputs).foldl readTyped ((Switches.boot, []), .empty) = _ :=
    LineReader.foldl_next content _ _ (typed inputs)
  have hlines : ((typed inputs).foldl readTyped ((Switches.boot, []), .empty)).1 =
      (switchesAfter .boot (typedLines inputs),
        [] ++ (outcomes .boot (typedLines inputs)).flatten) := by
    rw [hread, ← foldl_outcomes]
    unfold typedLines
    rw [List.foldl_map]
    rfl
  rw [hstep.switches, hstep.effects, hlines]
  exact ⟨rfl, rfl⟩

end UllReceiver.Host
