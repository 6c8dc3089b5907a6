/-
**What a source answers, pop by pop.**

A source is popped again and again. `answers s n` lists what the first `n` pops return, each
together with the line and the padding that the source shows afterwards; this is all that a consumer
that only pops can see.

* `answers_add`: the answers to more pops go on from where the first ones lead to;
* `Renders.answers_eq`: what is made of the first answers of another source is handed out first;
* `Renders.agree`: two sources whose answers are made from those of a third by functions that agree
  answer alike for ever;
* `exists_terminated`, `map_history_eq_answers`: the history of a source is the list of its first
  answers up to the end of input or a failure;
* `rest_of_terminated`: so are its tokens one by one, and `drain_of_terminated` says which source is
  left;
* `Renders.collect_eq`: what a source collects can be read off the answers it is made from.
-/

import Mathlib.Data.List.Basic
import Offside.Source.Tokens

namespace Offside

/-- What a consumer sees of the text around a token: the line, and what stands before a caret. -/
structure View where
  line : List Char
  padding : List Char
  deriving DecidableEq

/-- What one pop shows. -/
structure Answer where
  result : Except Failure Token
  view : View

/-! ### What does not happen -/

/-- Nothing is asked of a place that is empty. -/
theorem of_none {α : Type} {property : α → Prop} (value : α) (absent : none = some value) :
    property value := by
  cases absent

/-- Nothing is asked of the failure of a success. -/
theorem of_ok {ε α : Type} {state : α} {property : ε → Prop} (failed : ε)
    (absent : (.ok state : Except ε α) = .error failed) : property failed := by
  cases absent

/-! ### Answers -/

/-- Whether a result is a success, or else its failure. -/
def outcome {α : Type} (result : Except Failure α) : Except Failure Unit := result.map fun _ => ()

theorem outcome_eq_ok_iff {α : Type} {result : Except Failure α} :
    outcome result = .ok () ↔ ∃ value, result = .ok value := by
  cases result with
  | error failure =>
    constructor
    · intro absent
      cases absent
    · rintro ⟨_, absent⟩
      cases absent
  | ok value => exact ⟨fun _ => ⟨value, rfl⟩, fun _ => rfl⟩

theorem outcome_eq_error_iff {α : Type} {result : Except Failure α} {failure : Failure} :
    outcome result = .error failure ↔ result = .error failure := by
  cases result with
  | error other =>
    constructor
    · intro same
      cases same
      rfl
    · intro same
      cases same
      rfl
  | ok value =>
    constructor
    · intro absent
      cases absent
    · intro absent
      cases absent

namespace Answer

/-- Whether an answer is the last one that counts: a failure or the end of input. -/
def IsEnd (eof : String) (answer : Answer) : Prop :=
  match answer.result with
  | .error _ => True
  | .ok token => token.kind = eof

theorem isEnd_ok_iff {eof : String} {token : Token} {view : View} :
    IsEnd eof ⟨.ok token, view⟩ ↔ token.kind = eof := Iff.rfl

/-- Whether an answer hands out a token with a property. -/
def Gives (property : Token → Prop) (answer : Answer) : Prop :=
  ∃ token, answer.result = .ok token ∧ property token

/-- The tokens up to the end of input, or the first failure, in a list of answers. -/
def collect (eof : String) : List Answer → Except Failure (List Token)
  | [] => .ok []
  | ⟨.error failure, _⟩ :: _ => .error failure
  | ⟨.ok token, _⟩ :: rest =>
    if token.kind = eof then .ok [token] else (collect eof rest).map (token :: ·)

/-- What comes after the end of a list of answers is not collected. -/
theorem collect_append {eof : String} {answers : List Answer}
    (ended : ∃ answer ∈ answers, answer.IsEnd eof) (more : List Answer) :
    collect eof (answers ++ more) = collect eof answers := by
  induction answers with
  | nil => obtain ⟨_, absent, _⟩ := ended; cases absent
  | cons first rest ih =>
    obtain ⟨result, view⟩ := first
    cases result with
    | error failure => rfl
    | ok token =>
      simp only [List.cons_append, collect]
      split
      · rfl
      · rename_i inside
        obtain ⟨answer, member, isEnd⟩ := ended
        rcases List.mem_cons.mp member with rfl | member
        · exact absurd isEnd inside
        · rw [ih ⟨answer, member, isEnd⟩]

theorem collect_of_prefix {eof : String} {shorter longer : List Answer}
    (ended : ∃ answer ∈ shorter, answer.IsEnd eof) (start : shorter <+: longer) :
    collect eof longer = collect eof shorter := by
  obtain ⟨more, rfl⟩ := start
  exact collect_append ended more

/-- A failure that is collected is one of the answers. -/
theorem exists_of_collect_error {eof : String} {list : List Answer} {failure : Failure}
    (failed : collect eof list = .error failure) :
    ∃ answer ∈ list, answer.result = .error failure := by
  induction list with
  | nil => cases failed
  | cons first rest ih =>
    obtain ⟨result, view⟩ := first
    cases result with
    | error other =>
      cases failed
      exact ⟨_, List.mem_cons_self, rfl⟩
    | ok token =>
      rw [collect] at failed
      split at failed
      · cases failed
      · cases collected : collect eof rest with
        | ok tokens =>
          rw [collected] at failed
          cases failed
        | error other =>
          rw [collected] at failed
          cases failed
          obtain ⟨answer, member, same⟩ := ih collected
          exact ⟨answer, List.mem_cons_of_mem _ member, same⟩

/-- Whether a list of answers comes to the end of input before a failure. -/
def verdict (eof : String) (list : List Answer) : Except Failure Unit :=
  outcome (collect eof list)

theorem verdict_eof {eof : String} {token : Token} (isEof : token.kind = eof) (view : View)
    (rest : List Answer) : verdict eof (⟨.ok token, view⟩ :: rest) = .ok () := by
  rw [verdict, collect, if_pos isEof]
  rfl

/-- Only the end of a list decides. -/
theorem verdict_append {eof : String} {front : List Answer}
    (inside : ∀ answer ∈ front, ¬ answer.IsEnd eof) (back : List Answer) :
    verdict eof (front ++ back) = verdict eof back := by
  induction front with
  | nil => rfl
  | cons first rest ih =>
    obtain ⟨result, view⟩ := first
    have here := inside _ List.mem_cons_self
    rw [← ih fun answer member => inside answer (List.mem_cons_of_mem _ member)]
    cases result with
    | error failure => exact absurd trivial here
    | ok token =>
      rw [verdict, List.cons_append, collect, if_neg (show ¬ token.kind = eof from here), verdict]
      cases collect eof (rest ++ back) <;> rfl

/-- The last answer of a list, and no other, is a failure or the end of input. -/
inductive Terminated (eof : String) : List Answer → Prop
  | last {answer : Answer} : answer.IsEnd eof → Terminated eof [answer]
  | more {answer : Answer} {rest : List Answer} :
    ¬ answer.IsEnd eof → Terminated eof rest → Terminated eof (answer :: rest)

theorem terminated_cons_iff {eof : String} {answer : Answer} {rest : List Answer} :
    Terminated eof (answer :: rest) ↔
      (answer.IsEnd eof ∧ rest = []) ∨ (¬ answer.IsEnd eof ∧ Terminated eof rest) := by
  constructor
  · intro terminated
    cases terminated with
    | last isEnd => exact .inl ⟨isEnd, rfl⟩
    | more inside terminated => exact .inr ⟨inside, terminated⟩
  · rintro (⟨isEnd, rfl⟩ | ⟨inside, terminated⟩)
    · exact .last isEnd
    · exact .more inside terminated

/-- The last answer of a terminated list is its end. -/
theorem Terminated.isEnd_of_concat {eof : String} {front : List Answer} {answer : Answer}
    (terminated : Terminated eof (front ++ [answer])) : answer.IsEnd eof := by
  induction front with
  | nil =>
    rcases terminated_cons_iff.mp terminated with ⟨isEnd, _⟩ | ⟨_, absent⟩
    · exact isEnd
    · cases absent
  | cons first front ih =>
    rcases terminated_cons_iff.mp terminated with ⟨_, absent⟩ | ⟨_, rest⟩
    · exact absurd absent (List.append_ne_nil_of_right_ne_nil _ (List.cons_ne_nil _ _))
    · exact ih rest

theorem Terminated.exists_isEnd {eof : String} {answers : List Answer}
    (terminated : Terminated eof answers) : ∃ answer ∈ answers, answer.IsEnd eof := by
  induction terminated with
  | last isEnd => exact ⟨_, List.mem_cons_self, isEnd⟩
  | more _ _ ih =>
    obtain ⟨answer, member, isEnd⟩ := ih
    exact ⟨answer, List.mem_cons_of_mem _ member, isEnd⟩

theorem Terminated.append {eof : String} {front back : List Answer}
    (inside : ∀ answer ∈ front, ¬ answer.IsEnd eof) (terminated : Terminated eof back) :
    Terminated eof (front ++ back) := by
  induction front with
  | nil => exact terminated
  | cons first rest ih =>
    refine .more (inside first List.mem_cons_self) (ih fun answer member => ?_)
    exact inside answer (List.mem_cons_of_mem _ member)

end Answer

namespace TokenSource

variable {σ τ ρ : Type} [TokenSource σ] [TokenSource τ] [TokenSource ρ]

/-- What a source shows of the text. -/
def view (s : σ) : View := ⟨line s, padding s⟩

theorem view_peek (s : σ) : view (peek s).2 = view (pop s).2 := by
  rw [view, view, line_peek, padding_peek]

/-- What the next pop shows. -/
def answer (s : σ) : Answer := ⟨(pop s).1, view (pop s).2⟩

/-- The source after some pops. -/
def after (s : σ) : Nat → σ
  | 0 => s
  | count + 1 => after (pop s).2 count

/-- What the first pops show. -/
def answers (s : σ) : Nat → List Answer
  | 0 => []
  | count + 1 => answer s :: answers (pop s).2 count

/-- What the first pops return. -/
def results (s : σ) (count : Nat) : List (Except Failure Token) :=
  (answers s count).map (·.result)

theorem length_answers (s : σ) (count : Nat) : (answers s count).length = count := by
  induction count generalizing s with
  | zero => rfl
  | succ count ih => rw [answers, List.length_cons, ih]

theorem eq_zero_of_answers_eq_nil {s : σ} {count : Nat} (none : answers s count = []) :
    count = 0 := by
  rw [← length_answers s count, none, List.length_nil]

theorem answers_add (s : σ) (first second : Nat) :
    answers s (first + second) = answers s first ++ answers (after s first) second := by
  induction first generalizing s with
  | zero => rw [Nat.zero_add, answers, after, List.nil_append]
  | succ first ih => rw [Nat.succ_add, answers, ih, answers, after, List.cons_append]

theorem results_add (s : σ) (first second : Nat) :
    results s (first + second) = results s first ++ results (after s first) second := by
  rw [results, answers_add, List.map_append]
  rfl

theorem reserved_after (s : σ) (count : Nat) : reserved (after s count) = reserved s := by
  induction count generalizing s with
  | zero => rfl
  | succ count ih => rw [after, ih, reserved_pop]

theorem after_add (s : σ) (first second : Nat) :
    after s (first + second) = after (after s first) second := by
  induction first generalizing s with
  | zero => rw [Nat.zero_add, after]
  | succ first ih => rw [Nat.succ_add, after, ih, after]

theorem prefix_answers_of_le (s : σ) {fewer more : Nat} (le : fewer ≤ more) :
    answers s fewer <+: answers s more := by
  obtain ⟨extra, rfl⟩ := Nat.exists_eq_add_of_le le
  rw [answers_add]
  exact List.prefix_append _ _

/-! ### The history of a source -/

/-- Popping a source comes to the end of input or to a failure. -/
theorem exists_terminated (s : σ) :
    ∃ count, Answer.Terminated (reserved s).eof (answers s count) := by
  induction s using (follows_wf (σ := σ)).induction with
  | _ s ih =>
    by_cases isEnd : (answer s).IsEnd (reserved s).eof
    · exact ⟨1, .last isEnd⟩
    · have follows : Follows (pop s).2 s := by
        unfold Answer.IsEnd answer at isEnd
        split at isEnd
        · exact absurd trivial isEnd
        · rename_i token popped
          exact ⟨token, Prod.ext popped rfl, isEnd⟩
      obtain ⟨count, terminated⟩ := ih _ follows
      rw [reserved_pop] at terminated
      exact ⟨count + 1, .more isEnd terminated⟩

/-- The history stops at an end. -/
theorem history_of_isEnd {s : σ} (isEnd : (answer s).IsEnd (reserved s).eof) :
    history s = [pop s] := by
  rw [answer] at isEnd
  rw [history]
  split
  · rename_i popped
    rw [popped]
  · rename_i token later popped
    rw [popped] at isEnd ⊢
    rw [if_pos (Answer.isEnd_ok_iff.mp isEnd)]

/-- The history goes on behind any other answer. -/
theorem history_of_inside {s : σ} (inside : ¬ (answer s).IsEnd (reserved s).eof) :
    history s = pop s :: history (pop s).2 := by
  rw [answer] at inside
  rw [history]
  split
  · rename_i popped
    rw [popped] at inside
    exact absurd trivial inside
  · rename_i token later popped
    rw [popped] at inside ⊢
    rw [if_neg fun kind => inside (Answer.isEnd_ok_iff.mpr kind)]

/-- The history lists the answers up to the first end, each with the source that it leads to. -/
theorem map_history_eq_answers {s : σ} {count : Nat}
    (terminated : Answer.Terminated (reserved s).eof (answers s count)) :
    (history s).map (fun pulled => ⟨pulled.1, view pulled.2⟩) = answers s count := by
  induction count generalizing s with
  | zero => cases terminated
  | succ count ih =>
    rw [answers] at terminated ⊢
    rcases Answer.terminated_cons_iff.mp terminated with ⟨isEnd, none⟩ | ⟨inside, rest⟩
    · rw [history_of_isEnd isEnd, none]
      rfl
    · rw [← reserved_pop s] at rest
      rw [history_of_inside inside, List.map_cons, ih rest]
      rfl

theorem history_eq {s : σ} {count : Nat}
    (terminated : Answer.Terminated (reserved s).eof (answers s count)) :
    (history s).map (·.1) = results s count := by
  rw [results, ← map_history_eq_answers terminated, List.map_map]
  rfl

/-! ### The tokens of a source -/

/-- What comes first is what popping returns; whether it was the last is told by its kind. -/
theorem next_of_fresh {s : σ} :
    ((answer s).IsEnd (reserved s).eof →
        (tokens s).next = (some (pop s).1, ⟨(pop s).2, true⟩)) ∧
      (¬ (answer s).IsEnd (reserved s).eof →
        (tokens s).next = (some (pop s).1, tokens (pop s).2)) := by
  have kept := reserved_pop s
  rw [tokens, Tokens.next, answer]
  rcases popped : pop s with ⟨result, later⟩
  rw [popped] at kept
  cases result with
  | error failure => exact ⟨fun _ => rfl, fun inside => absurd trivial inside⟩
  | ok token =>
    simp only at kept ⊢
    rw [kept]
    refine ⟨fun isEnd => ?_, fun inside => ?_⟩
    · have isEof : (token.kind == (reserved s).eof) = true := beq_iff_eq.mpr isEnd
      rw [isEof]
      rfl
    · have other : (token.kind == (reserved s).eof) = false := beq_false_of_ne inside
      rw [other]
      rfl

/-- One by one, the results up to the first end are handed out. -/
theorem rest_of_terminated {s : σ} {count : Nat}
    (terminated : Answer.Terminated (reserved s).eof (answers s count)) :
    (tokens s).rest = (results s count, ⟨after s count, true⟩) := by
  induction count generalizing s with
  | zero => cases terminated
  | succ count ih =>
    rw [answers] at terminated
    rcases Answer.terminated_cons_iff.mp terminated with ⟨isEnd, none⟩ | ⟨inside, rest⟩
    · obtain rfl := eq_zero_of_answers_eq_nil none
      have stops : (⟨(pop s).2, true⟩ : Tokens σ).next = (Option.none, ⟨(pop s).2, true⟩) := rfl
      rw [Tokens.rest_of_some (next_of_fresh.1 isEnd), Tokens.rest_of_none stops]
      rfl
    · rw [← reserved_pop s] at rest
      rw [Tokens.rest_of_some (next_of_fresh.2 inside), ih rest]
      rfl

/-- **Draining gives the results up to the first end, and the source after them.** -/
theorem drain_of_terminated {s : σ} {count : Nat}
    (terminated : Answer.Terminated (reserved s).eof (answers s count)) :
    drain s = (results s count, after s count) := by
  rw [drain, rest_of_terminated terminated]

theorem mapM_results_eq_collect {eof : String} {list : List Answer}
    (terminated : Answer.Terminated eof list) :
    (list.map (·.result)).mapM id = Answer.collect eof list := by
  induction terminated with
  | @last answer isEnd =>
    obtain ⟨result, view⟩ := answer
    cases result with
    | error failure => rfl
    | ok token =>
      rw [Answer.collect, if_pos (Answer.isEnd_ok_iff.mp isEnd)]
      rfl
  | @more answer rest inside _ ih =>
    obtain ⟨result, view⟩ := answer
    cases result with
    | error failure => exact absurd trivial inside
    | ok token =>
      rw [Answer.collect, if_neg fun kind => inside (Answer.isEnd_ok_iff.mpr kind), ← ih,
        List.map_cons, List.mapM_cons]
      cases (rest.map (·.result)).mapM id <;> rfl

/-- What is collected from a source is collected from its first answers. -/
theorem collect_eq {s : σ} {count : Nat}
    (ended : ∃ answer ∈ answers s count, answer.IsEnd (reserved s).eof) :
    collect s = Answer.collect (reserved s).eof (answers s count) := by
  obtain ⟨enough, terminated⟩ := exists_terminated s
  have same : collect s = Answer.collect (reserved s).eof (answers s enough) := by
    rw [← mapM_results_eq_collect terminated, collect, rest_of_terminated terminated]
    rfl
  rw [same]
  rcases Nat.le_total enough count with le | le
  · exact (Answer.collect_of_prefix terminated.exists_isEnd (prefix_answers_of_le s le)).symm
  · exact Answer.collect_of_prefix ended (prefix_answers_of_le s le)

/-- A source from which a failure is collected answers some call with it. -/
theorem exists_of_collect_error {s : σ} {failure : Failure} (failed : collect s = .error failure) :
    ∃ count, ∃ answer ∈ answers s count, answer.result = .error failure := by
  obtain ⟨enough, terminated⟩ := exists_terminated s
  rw [collect_eq terminated.exists_isEnd] at failed
  exact ⟨enough, Answer.exists_of_collect_error failed⟩

/-- What is collected from a source whose first answers are known. -/
theorem collect_of_answers {s : σ} {list : List Answer} (first : answers s list.length = list)
    (terminated : Answer.Terminated (reserved s).eof list) :
    collect s = Answer.collect (reserved s).eof list := by
  have ended : ∃ answer ∈ answers s list.length, answer.IsEnd (reserved s).eof := by
    rw [first]
    exact terminated.exists_isEnd
  rw [collect_eq ended, first]

/-- What a source whose first answers are known hands out up to its end. -/
theorem drain_of_answers {s : σ} {list : List Answer} (first : answers s list.length = list)
    (terminated : Answer.Terminated (reserved s).eof list) :
    (drain s).1 = list.map (·.result) := by
  have ended : Answer.Terminated (reserved s).eof (answers s list.length) := first.symm ▸ terminated
  rw [drain_of_terminated ended, results, first]

/-- The answers of a source are made from those of another by a function on lists: as many as one
likes are the start of what the function makes of enough answers of the other. -/
def Renders (outer : σ) (inner : τ) (make : List Answer → List Answer) : Prop :=
  ∀ count, ∃ enough, answers outer count <+: make (answers inner enough)

/-- A function on lists that only adds to its result when something is added to the list. -/
def Extends {α β : Type} (make : List α → List β) : Prop :=
  ∀ ⦃shorter longer : List α⦄, shorter <+: longer → make shorter <+: make longer

/-- One of two lists is the start of the other. -/
def Agree {α : Type} (first second : List α) : Prop := first <+: second ∨ second <+: first

theorem Agree.append_left {α : Type} {first second : List α} (agree : Agree first second)
    (start : List α) : Agree (start ++ first) (start ++ second) :=
  agree.imp (List.prefix_append_right_inj start).mpr (List.prefix_append_right_inj start).mpr

theorem agree_replicate {α : Type} (first second : Nat) (value : α) :
    Agree (List.replicate first value) (List.replicate second value) :=
  (Nat.le_total first second).imp
    (fun le => List.prefix_iff_eq_take.mpr (by
      rw [List.length_replicate, List.take_replicate, Nat.min_eq_left le]))
    (fun le => List.prefix_iff_eq_take.mpr (by
      rw [List.length_replicate, List.take_replicate, Nat.min_eq_left le]))

/-- What is collected from two lists that agree is the same, if both have an end. -/
theorem collect_of_agree {eof : String} {first second : List Answer} (agree : Agree first second)
    (ended : ∃ answer ∈ first, answer.IsEnd eof) (ended' : ∃ answer ∈ second, answer.IsEnd eof) :
    Answer.collect eof first = Answer.collect eof second := by
  rcases agree with start | start
  · exact (Answer.collect_of_prefix ended start).symm
  · exact Answer.collect_of_prefix ended' start

theorem Extends.comp {α β γ : Type} {second : List β → List γ} {first : List α → List β}
    (later : Extends second) (earlier : Extends first) :
    Extends fun list => second (first list) :=
  fun _ _ start => later (earlier start)

namespace Renders

variable {outer : σ} {inner : τ} {make : List Answer → List Answer}

/-- If some answers are enough, more of them are enough too. -/
theorem eventually (renders : Renders outer inner make) (extending : Extends make) (count : Nat) :
    ∃ enough, ∀ more, enough ≤ more → answers outer count <+: make (answers inner more) := by
  obtain ⟨enough, start⟩ := renders count
  exact ⟨enough, fun more le => start.trans (extending (prefix_answers_of_le inner le))⟩

/-- What is made of the first answers is handed out first. -/
theorem answers_eq (renders : Renders outer inner make) (extending : Extends make) (count : Nat) :
    answers outer (make (answers inner count)).length = make (answers inner count) := by
  obtain ⟨enough, start⟩ := renders.eventually extending (make (answers inner count)).length
  have left := start (max enough count) (Nat.le_max_left _ _)
  have right : make (answers inner count) <+: make (answers inner (max enough count)) :=
    extending (prefix_answers_of_le inner (Nat.le_max_right _ _))
  have lengths := length_answers outer (make (answers inner count)).length
  exact (List.prefix_of_prefix_length_le left right (Nat.le_of_eq lengths)).eq_of_length lengths

theorem comp {innermost : ρ} {first : List Answer → List Answer}
    (later : Renders outer inner make) (extending : Extends make)
    (earlier : Renders inner innermost first) :
    Renders outer innermost fun list => make (first list) := by
  intro count
  obtain ⟨between, start⟩ := later count
  obtain ⟨enough, deeper⟩ := earlier between
  exact ⟨enough, start.trans (extending deeper)⟩

/-- **Two sources made from the same answers by functions that agree answer alike.** -/
theorem agree {other : ρ} {make' : List Answer → List Answer} (first : Renders outer inner make)
    (second : Renders other inner make') (extending : Extends make) (extending' : Extends make')
    (same : ∀ list, Agree (make list) (make' list)) (count : Nat) :
    answers outer count = answers other count := by
  obtain ⟨enough, start⟩ := first.eventually extending count
  obtain ⟨enough', start'⟩ := second.eventually extending' count
  have left := start (max enough enough') (Nat.le_max_left _ _)
  have right := start' (max enough enough') (Nat.le_max_right _ _)
  have lengths : (answers outer count).length = (answers other count).length := by
    rw [length_answers, length_answers]
  rcases same (answers inner (max enough enough')) with shorter | shorter
  · have start := List.prefix_of_prefix_length_le (left.trans shorter) right (Nat.le_of_eq lengths)
    exact start.eq_of_length lengths
  · have start := List.prefix_of_prefix_length_le left (right.trans shorter) (Nat.le_of_eq lengths)
    exact start.eq_of_length lengths

/-- What a source collects is collected from enough of the answers it is made from. -/
theorem collect_eq (renders : Renders outer inner make) (extending : Extends make)
    {eof : String} (kinds : (reserved outer).eof = eof) :
    ∃ enough, ∀ more, enough ≤ more →
      TokenSource.collect outer = Answer.collect eof (make (answers inner more)) := by
  obtain ⟨count, terminated⟩ := exists_terminated outer
  obtain ⟨enough, start⟩ := renders.eventually extending count
  refine ⟨enough, fun more le => ?_⟩
  rw [TokenSource.collect_eq terminated.exists_isEnd, ← kinds]
  exact (Answer.collect_of_prefix terminated.exists_isEnd (start more le)).symm

end Renders

end TokenSource

end Offside
