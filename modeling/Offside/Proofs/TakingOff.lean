/-
**Filters can be taken off.**

A consumer may take a filter off in mid-stream and go on with the source below. It loses nothing,
provided that it has popped what it has peeked at: the source stands right behind the last token
that was handed out. The filter that collapses newlines has looked one token further when it hands
out a newline, but only by peeking.

* `calls_snd`: a consumer that does not stop at a peek leaves a source as if it had only popped;
* `CollapseStage.Runs.exists_count`: looking over newlines takes a run of them and then peeks;
* `Collapsed.Taken.trans`: what is handed out and what is taken, put together token by token;
* `Leveled.Taking.pop`: one pop of the filter that counts levels, with the deindents that wait as
  what is left of the last answer taken;
* `come_off`: both filters come off, and a replayed list has been popped once for each item taken.
-/

import Offside.Proofs.Calls
import Offside.Proofs.Leveling
import Offside.Proofs.NewlineRuns

namespace Offside

open TokenSource

/-! ### What is left of a source -/

namespace TokenSource

variable {σ : Type} [TokenSource σ] {s : σ}

theorem after_peek {count : Nat} (positive : 0 < count) :
    after (peek s).2 count = after s count := by
  obtain ⟨more, rfl⟩ := Nat.exists_eq_add_of_lt positive
  rw [Nat.zero_add, after, after, pop_peek]

/-- A consumer that does not stop at a peek leaves a source as if it had only popped. -/
theorem calls_snd {consumer : List Call} (stopped : consumer.getLast? ≠ some .peek) (s : σ) :
    (calls s consumer).2 = after s (consumer.count .pop) := by
  induction consumer generalizing s with
  | nil => rfl
  | cons next rest ih =>
    cases rest with
    | nil =>
      cases next with
      | peek => exact absurd rfl stopped
      | pop => rfl
    | cons second rest =>
      rw [List.getLast?_cons_cons] at stopped
      have onward := ih stopped (call s next).2
      cases next with
      | pop =>
        rw [List.count_cons_self]
        exact onward
      | peek =>
        -- The call that is made last is a pop, and it does not see the peek.
        have pops : 0 < (second :: rest).count .pop := by
          refine List.count_pos_iff.mpr (List.mem_of_getLast? ?_)
          cases last : (second :: rest).getLast? with
          | none => cases List.getLast?_eq_none_iff.mp last
          | some call =>
            cases call with
            | peek => exact absurd last stopped
            | pop => rfl
        exact onward.trans (after_peek pops)

end TokenSource

/-- A token that a fresh buffer returns comes from its stage, and the buffer is fresh again. -/
theorem Buffered.exists_next {ζ : Type} [TokenStage ζ] {stage : ζ} {token : Token}
    (returned : (TokenSource.pop (⟨stage, none, none⟩ : Buffered ζ)).1 = .ok token) :
    ∃ later, TokenStage.next stage = (.ok token, later) ∧
      TokenSource.pop (⟨stage, none, none⟩ : Buffered ζ) = (.ok token, ⟨later, none, none⟩) := by
  rcases produced : TokenStage.next stage with ⟨failure | produced', later⟩
  · rw [Rewriter.pop_failed produced] at returned
    cases returned
  · have popped := Rewriter.pop_produced produced
    rw [popped] at returned
    cases returned
    exact ⟨later, rfl, popped⟩

/-- What a filter gives back of its source when it has taken `count` answers from it. -/
structure GivenBack {σ : Type} [TokenSource σ] (source given : σ) (count : Nat) : Prop where
  /-- The source was popped once for each of these answers, and then peeked at once or not at
  all. -/
  place : given = after source count ∨ given = (peek (after source count)).2
  /-- It goes on with what comes behind them. -/
  remaining : ∀ more, answers given more = answers (after source count) more

namespace GivenBack

variable {σ : Type} [TokenSource σ] {source given later : σ} {count more : Nat}

theorem popped (source : σ) (count : Nat) : GivenBack source (after source count) count :=
  ⟨.inl rfl, fun _ => rfl⟩

theorem peeked (source : σ) (count : Nat) : GivenBack source (peek (after source count)).2 count :=
  ⟨.inr rfl, answers_peek _⟩

theorem results_eq (back : GivenBack source given count) (more : Nat) :
    results given more = results (after source count) more := by
  rw [results, back.remaining, results]

/-- That a source was peeked at is not seen any more once it is popped. -/
theorem after_eq (back : GivenBack source given count) (positive : 0 < more) :
    after given more = after source (count + more) := by
  rw [after_add]
  rcases back.place with rfl | rfl
  · rfl
  · exact after_peek positive

theorem trans (back : GivenBack source given count) (positive : 0 < more)
    (again : GivenBack given later more) : GivenBack source later (count + more) := by
  have place := again.place
  rw [back.after_eq positive] at place
  rcases place with rfl | rfl
  · exact popped _ _
  · exact peeked _ _

end GivenBack

namespace Replay

theorem pulls_pop (source : Replay) : (TokenSource.pop source).2.pulls = source.pulls + 1 := by
  show source.pop.2.pulls = _
  rw [pop]
  split <;> rfl

theorem pulls_after (source : Replay) (count : Nat) :
    (after source count).pulls = source.pulls + count := by
  induction count generalizing source with
  | zero => rfl
  | succ count ih =>
    rw [after, ih, pulls_pop]
    omega

/-- Popping takes the first item, unless it is an end of input that stands alone. -/
theorem pop_cons_cons (first second : Except Failure Token) (rest : List (Except Failure Token))
    (pulls : Nat) :
    TokenSource.pop (⟨first :: second :: rest, pulls⟩ : Replay) =
      (first, ⟨second :: rest, pulls + 1⟩) := by
  cases first <;> rfl

/-- As long as no item is repeated, what is popped are the items. -/
theorem results_eq_take {source : Replay} {count : Nat} (le : count ≤ source.items.length) :
    results source count = source.items.take count := by
  obtain ⟨items, pulls⟩ := source
  induction count generalizing items pulls with
  | zero => rfl
  | succ count ih =>
    match items with
    | [] => cases le
    | [item] =>
      obtain rfl : count = 0 := by
        simp only [List.length_singleton] at le
        omega
      cases item <;> rfl
    | first :: second :: rest =>
      have onward := ih (second :: rest) (pulls + 1) (Nat.le_of_succ_le_succ le)
      rw [results, answers, List.map_cons, answer, pop_cons_cons, List.take_succ_cons, ← onward,
        results]

/-- A list that is given back was popped once for each answer that was taken. -/
theorem pulls_of_givenBack {source given : Replay} {count : Nat}
    (back : GivenBack source given count) : given.pulls = source.pulls + count := by
  rw [← pulls_after]
  rcases back.place with rfl | rfl
  · rfl
  · exact congrArg pulls (peek_snd _)

end Replay

/-! ### Collapsing newlines -/

/-- What is handed out of some results by a filter that collapses newlines. -/
structure Thins (kinds : ReservedKinds) (taken handed : List (Except Failure Token)) : Prop where
  /-- Nothing is added, repeated or reordered. -/
  sublist : handed.Sublist taken
  /-- Nothing but newlines is left out. -/
  others : handed.filter (fun result => !isNewline kinds result) =
    taken.filter fun result => !isNewline kinds result
  /-- What was taken last is handed out. -/
  last : handed.getLast? = taken.getLast?

namespace Thins

variable {kinds : ReservedKinds} {taken handed taken' handed' : List (Except Failure Token)}

theorem append (first : Thins kinds taken handed) (second : Thins kinds taken' handed') :
    Thins kinds (taken ++ taken') (handed ++ handed') where
  sublist := first.sublist.append second.sublist
  others := by rw [List.filter_append, List.filter_append, first.others, second.others]
  last := by rw [List.getLast?_append, List.getLast?_append, first.last, second.last]

/-- Newlines in front of a result are left out. -/
theorem of_newlines {run : List (Except Failure Token)}
    (newlines : ∀ result ∈ run, isNewline kinds result = true) (result : Except Failure Token) :
    Thins kinds (run ++ [result]) [result] where
  sublist := List.sublist_append_right _ _
  others := by
    have none : run.filter (fun result => !isNewline kinds result) = [] := by
      refine List.filter_eq_nil_iff.mpr fun newline member => ?_
      rw [newlines newline member]
      exact Bool.false_ne_true
    rw [List.filter_append, none, List.nil_append]
  last := by rw [List.getLast?_concat, List.getLast?_singleton]

end Thins

/-- What the filter that collapses newlines has taken from its source when it has handed out some
results, and what it gives back. -/
structure Collapsed.Taken {σ : Type} [TokenSource σ] (source given : σ) (count : Nat)
    (handed : List (Except Failure Token)) : Prop where
  thins : Thins (reserved source) (results source count) handed
  /-- When a newline was handed out last, its run has been taken to its end. -/
  run : ∀ token, handed.getLast? = some (.ok token) → token.kind = (reserved source).newline →
    isNewline (reserved source) (pop given).1 = false
  back : GivenBack source given count

namespace CollapseStage

variable {σ : Type} [TokenSource σ]

/-- Looking over newlines takes a run of them and peeks at what follows, which is no newline. -/
theorem Runs.exists_count {s before : σ} {held found : Option Token} {seen : Token}
    (runs : Runs s held (.ok (found, seen), before)) :
    ∃ count, before = (peek (after s count)).2 ∧ (pop (after s count)).1 = .ok seen ∧
      seen.kind ≠ (reserved s).newline ∧
      (∀ result ∈ results s count, isNewline (reserved s) result = true) ∧
      found.map Except.ok = (results s count).getLast?.or (held.map Except.ok) := by
  generalize shape : ((.ok (found, seen), before) : Found σ) = outcome at runs
  induction runs with
  | failure => cases shape
  | @newline s later held newline outcome popped isNewline runs ih =>
    obtain ⟨count, place, next, other, newlines, last⟩ := ih shape
    rw [reserved_of_pop popped] at other newlines
    have list : results s (count + 1) = .ok newline :: results later count := by
      rw [results, answers, answer, popped]
      rfl
    refine ⟨count + 1, ?_, ?_, other, ?_, ?_⟩
    · rw [after, popped, place]
    · rw [after, popped, next]
    · rw [list]
      exact List.forall_mem_cons.mpr ⟨beq_iff_eq.mpr isNewline, newlines⟩
    · rw [last, list, List.getLast?_cons]
      cases (results later count).getLast? <;> rfl
  | other popped other =>
    cases shape
    refine ⟨0, rfl, ?_, other, fun _ absent => absurd absent List.not_mem_nil, rfl⟩
    rw [after, popped]

/-- A run of newlines that is dropped, and the token behind it. -/
theorem taken_of_pop {s before later : σ} {found : Option Token} {seen token : Token}
    (runs : Runs s none (.ok (found, seen), before)) (popped : pop before = (.ok token, later)) :
    ∃ count, Collapsed.Taken s later (count + 1) [.ok token] := by
  obtain ⟨count, rfl, next, other, newlines, _⟩ := runs.exists_count
  rw [pop_peek] at popped
  obtain rfl : token = seen := Except.ok.inj (by rw [← next, popped])
  have place : later = after s (count + 1) := by
    rw [after_add, after, after, popped]
  have list : results s (count + 1) = results s count ++ [.ok token] := by
    rw [results_add, ← next]
    rfl
  refine ⟨count, list ▸ Thins.of_newlines newlines _, ?_, place ▸ .popped s (count + 1)⟩
  intro last isLast newline
  obtain rfl : token = last := Except.ok.inj (Option.some.inj isLast)
  exact absurd newline other

/-- A run of newlines of which the last one is let through. -/
theorem taken_of_run {s before : σ} {newline seen : Token}
    (runs : Runs s none (.ok (some newline, seen), before)) :
    ∃ count, Collapsed.Taken s before (count + 1) [.ok newline] := by
  obtain ⟨count, rfl, next, other, newlines, last⟩ := runs.exists_count
  cases count with
  | zero => cases last
  | succ count =>
    have list : results s (count + 1) = results s count ++ [(pop (after s count)).1] :=
      results_add _ _ _
    rw [list] at newlines last
    rw [List.getLast?_concat] at last
    obtain same : Except.ok newline = (pop (after s count)).1 := Option.some.inj last
    rw [← same] at list
    refine ⟨count, list ▸ Thins.of_newlines (fun result member => ?_) _, ?_,
      .peeked s (count + 1)⟩
    · exact newlines result (List.mem_append_left _ member)
    · intro last _ _
      rw [pop_peek, next]
      exact beq_false_of_ne other

/-- **What becomes one token of a filter that collapses newlines.** -/
theorem exists_taken {stage later : CollapseStage σ} {token : Token}
    (produced : next stage = (.ok token, later)) :
    ∃ count, Collapsed.Taken stage.inner later.inner (count + 1) [.ok token] := by
  rcases next_cases produced with ⟨_, _, _, runs, popped⟩ | ⟨_, runs, _⟩
  · exact taken_of_pop runs popped
  · exact taken_of_run runs

end CollapseStage

namespace Collapsed

variable {σ : Type} [TokenSource σ] {source given later : σ} {count more : Nat}

theorem Taken.trans {handed : List (Except Failure Token)} {token : Token}
    (taken : Taken source given count handed) (next : Taken given later (more + 1) [.ok token]) :
    Taken source later (count + (more + 1)) (handed ++ [.ok token]) := by
  have kinds : reserved given = reserved source := by
    rcases taken.back.place with rfl | rfl
    · exact reserved_after _ _
    · rw [reserved_peek, reserved_after]
  obtain ⟨thins, run, back⟩ := next
  rw [kinds, taken.back.results_eq] at thins
  rw [kinds] at run
  refine ⟨?_, ?_, taken.back.trans (Nat.succ_pos _) back⟩
  · rw [results_add]
    exact taken.thins.append thins
  · intro last isLast
    rw [List.getLast?_concat] at isLast
    exact run last isLast

/-- **What the filter has taken when it has handed out some tokens**, by induction on the pops. -/
theorem exists_taken (source : σ) (trim : Bool) (count : Nat)
    (fine : ∀ result ∈ results (Collapsed.of source trim) count, ∃ token, result = .ok token) :
    ∃ stage taken, after (Collapsed.of source trim) count = ⟨stage, none, none⟩ ∧
      Taken source stage.inner taken (results (Collapsed.of source trim) count) := by
  induction count with
  | zero =>
    refine ⟨⟨source, trim, true⟩, 0, rfl, ⟨.slnil, rfl, rfl⟩, ?_, .popped source 0⟩
    intro _ absent
    cases absent
  | succ count ih =>
    have list : results (Collapsed.of source trim) (count + 1) =
        results (Collapsed.of source trim) count ++
          [(pop (after (Collapsed.of source trim) count)).1] := results_add _ _ _
    rw [list] at fine ⊢
    obtain ⟨stage, first, place, taken⟩ := ih fun result member =>
      fine result (List.mem_append_left _ member)
    obtain ⟨token, result⟩ := fine _ (List.mem_append_right _ (List.mem_singleton_self _))
    rw [after_add, place, after, after]
    rw [place] at result
    obtain ⟨later, produced, popped⟩ := Buffered.exists_next result
    rw [popped]
    obtain ⟨more, next⟩ := CollapseStage.exists_taken produced
    exact ⟨later, first + (more + 1), rfl, taken.trans next⟩

end Collapsed

/-! ### Counting levels -/

/-- What the filter that counts levels has taken from its source when it has handed out some
results, and what it gives back. -/
structure Leveled.Taken {σ : Type} [TokenSource σ] (unit : List Char) (source given : σ)
    (count : Nat) (handed : List (Except Failure Token)) : Prop where
  /-- What was handed out is what becomes of the answers that were taken. -/
  becomes : handed =
    ((rewriter (reserved source) unit).run (.ok 0) (answers source count)).map (·.result)
  back : GivenBack source given count

/-- An idle stage that produces a token has taken one, and what becomes of it begins with that. -/
theorem LevelStage.exists_origin {σ : Type} [TokenSource σ] {s : σ} {unit : List Char} {level : Nat}
    {later : LevelStage σ} {token : Token}
    (produced : TokenStage.next (⟨s, unit, level, []⟩ : LevelStage σ) = (.ok token, later)) :
    ∃ origin inner rest reached, pop s = (.ok origin, inner) ∧
      Leveled.rewriter (reserved s) unit level (view inner) origin = .ok (token :: rest, reached) ∧
      later = ⟨inner, unit, reached, rest⟩ := by
  rcases popped : pop s with ⟨failure | origin, inner⟩
  · rw [next_of_error popped] at produced
    cases produced
  · cases made : Leveled.rewriter (reserved s) unit level (view inner) origin with
    | error failure =>
      rw [next_of_refused popped made] at produced
      cases produced
    | ok handed =>
      obtain ⟨tokens, reached⟩ := handed
      obtain ⟨first, rest, rfl⟩ := List.exists_cons_of_ne_nil (Leveled.rewriter_ne_nil made)
      rw [next_of_accepted popped made] at produced
      cases produced
      exact ⟨origin, inner, rest, reached, rfl, made, rfl⟩

namespace Leveled

variable {σ : Type} [TokenSource σ]

/-- The filter has handed out what becomes of the answers taken, up to the deindents that wait. -/
structure Taking (unit : List Char) (source : σ) (filter : Leveled σ) (taken : Nat)
    (handed : List (Except Failure Token)) (level : Nat) (waiting : List Token) : Prop where
  place : filter = ⟨⟨after source taken, unit, level, waiting⟩, none, none⟩
  stands : (rewriter (reserved source) unit).finish (.ok 0) (answers source taken) = .ok level
  becomes : handed ++ waiting.map Except.ok =
    ((rewriter (reserved source) unit).run (.ok 0) (answers source taken)).map (·.result)

/-- One more token: a deindent that waits, or the first of what becomes of the next answer. -/
theorem Taking.pop {unit : List Char} {source : σ} {filter : Leveled σ} {taken level : Nat}
    {handed : List (Except Failure Token)} {waiting : List Token} {token : Token}
    (taking : Taking unit source filter taken handed level waiting)
    (returned : (TokenSource.pop filter).1 = .ok token) :
    ∃ taken level waiting,
      Taking unit source (TokenSource.pop filter).2 taken (handed ++ [.ok token]) level
        waiting := by
  obtain ⟨rfl, stands, becomes⟩ := taking
  obtain ⟨later, produced, popped⟩ := Buffered.exists_next returned
  rw [popped]
  cases waiting with
  | cons first rest =>
    cases produced
    refine ⟨taken, level, rest, rfl, stands, ?_⟩
    rw [← becomes, List.append_assoc]
    rfl
  | nil =>
    obtain ⟨origin, inner, rest, reached, pulled, made, rfl⟩ := LevelStage.exists_origin produced
    rw [reserved_after] at made
    have onward : answers source (taken + 1) = answers source taken ++
        [⟨.ok origin, view inner⟩] := by
      rw [answers_add, answers, answers, answer, pulled]
    have fed := Rewriter.feed_ok _ made
    refine ⟨taken + 1, reached, rest, ?_, ?_, ?_⟩
    · rw [after_add, after, after, pulled]
    · have last : (rewriter (reserved source) unit).finish (.ok 0) (answers source (taken + 1)) =
          ((rewriter (reserved source) unit).feed (.ok level) ⟨.ok origin, view inner⟩).2 := by
        rw [onward, ← stands, Rewriter.finish, List.foldl_append]
        rfl
      rw [last, fed]
    · rw [List.map_nil, List.append_nil] at becomes
      rw [onward, Rewriter.run_append, stands, Rewriter.run, fed, Rewriter.run, List.append_nil,
        List.map_append, ← becomes, List.append_assoc, List.map_map]
      rfl

/-- **What the filter has taken when it has handed out some tokens**, by induction on the pops. -/
theorem exists_taking (source : σ) (unit : List Char) (count : Nat)
    (fine : ∀ result ∈ results (Leveled.of source unit) count, ∃ token, result = .ok token) :
    ∃ taken level waiting, Taking unit source (after (Leveled.of source unit) count) taken
      (results (Leveled.of source unit) count) level waiting := by
  induction count with
  | zero => exact ⟨0, 0, [], rfl, rfl, rfl⟩
  | succ count ih =>
    have list : results (Leveled.of source unit) (count + 1) =
        results (Leveled.of source unit) count ++
          [(TokenSource.pop (after (Leveled.of source unit) count)).1] := results_add _ _ _
    rw [list] at fine ⊢
    obtain ⟨_, _, _, taking⟩ := ih fun result member => fine result (List.mem_append_left _ member)
    obtain ⟨token, returned⟩ := fine _ (List.mem_append_right _ (List.mem_singleton_self _))
    rw [after_add, returned]
    exact taking.pop returned

end Leveled

/-! ### Filters come off -/

/-- A filter that is taken off a source, behind calls of which the last one is no peek, gives it
back right behind the last token that was handed out. -/
structure ComesOff {σ : Type} [TokenSource σ] (source : σ) (consumer : List Call) : Prop where
  collapsed : ∀ trim,
    (∀ result ∈ Transcript.popped (calls (Collapsed.of source trim) consumer).1,
      ∃ token, result = .ok token) →
    ∃ count, Collapsed.Taken source (calls (Collapsed.of source trim) consumer).2.stage.inner count
      (Transcript.popped (calls (Collapsed.of source trim) consumer).1)
  leveled : ∀ unit,
    (∀ result ∈ Transcript.popped (calls (Leveled.of source unit) consumer).1,
      ∃ token, result = .ok token) →
    (calls (Leveled.of source unit) consumer).2.stage.pending = [] →
    ∃ count, Leveled.Taken unit source (calls (Leveled.of source unit) consumer).2.stage.inner count
      (Transcript.popped (calls (Leveled.of source unit) consumer).1)

/-- **Filters never take more than they have handed out**, whatever the source below them is; a list
that is replayed below them has been popped once for each item up to there. -/
theorem come_off {consumer : List Call} (stopped : consumer.getLast? ≠ some .peek) :
    (∀ {σ : Type} [TokenSource σ] (source : σ), ComesOff source consumer) ∧
      ∀ (source given : Replay) (count : Nat), GivenBack source given count →
        given.pulls = source.pulls + count ∧
          (count ≤ source.items.length → results source count = source.items.take count) := by
  refine ⟨fun source => ⟨fun trim fine => ?_, fun unit fine idle => ?_⟩,
    fun source given count back => ?_⟩
  · rw [popped_calls] at fine ⊢
    rw [calls_snd stopped]
    obtain ⟨stage, count, place, taken⟩ := Collapsed.exists_taken source trim _ fine
    rw [place]
    exact ⟨count, taken⟩
  · rw [popped_calls] at fine ⊢
    rw [calls_snd stopped] at idle ⊢
    obtain ⟨count, level, waiting, place, _, becomes⟩ := Leveled.exists_taking source unit _ fine
    rw [place] at idle ⊢
    obtain rfl : waiting = [] := idle
    rw [List.map_nil, List.append_nil] at becomes
    exact ⟨count, becomes, .popped source count⟩
  · exact ⟨Replay.pulls_of_givenBack back, Replay.results_eq_take⟩

/-- A list with a deindent that closes two levels, and two newlines in a row. -/
def staircaseReplay : Replay :=
  ⟨[.ok ⟨"INDENT", "  ".toList, 1, 1⟩, .ok ⟨"INDENT", "    ".toList, 2, 1⟩,
    .ok ⟨"DEINDENT", [], 3, 1⟩, .ok ⟨"NEWLINE", [], 4, 1⟩, .ok ⟨"NEWLINE", [], 5, 1⟩,
    .ok ⟨"WORD", ['a'], 5, 1⟩, .ok ⟨"EOF", ['$'], 6, 1⟩], 0⟩

/-- Behind four pops one filter has taken both newlines, and the other one the deindent that it has
handed out in two parts. -/
theorem come_off_staircaseReplay :
    let consumer : List Call := [.pop, .peek, .peek, .pop, .pop, .pop]
    let collapsed := calls (Collapsed.of staircaseReplay false) consumer
    let leveled := calls (Leveled.of staircaseReplay "  ".toList) consumer
    consumer.getLast? ≠ some .peek ∧
      (∃ count, Collapsed.Taken staircaseReplay collapsed.2.stage.inner count
          (Transcript.popped collapsed.1) ∧
        collapsed.2.stage.inner.pulls = count) ∧
      ∃ count, Leveled.Taken "  ".toList staircaseReplay leveled.2.stage.inner count
          (Transcript.popped leveled.1) ∧
        leveled.2.stage.inner.pulls = count := by
  intro consumer collapsed leveled
  have stopped : consumer.getLast? ≠ some .peek := by decide
  -- The newline is handed out once the word behind it is seen, so the rewriter makes both of them
  -- at once.
  have made : answers (Collapsed.of staircaseReplay false) 5 = _ :=
    (Collapsed.renders staircaseReplay false (by decide)).answers_eq (Rewriter.extends_run _ _) 6
  have handed : results (Collapsed.of staircaseReplay false) 5 =
      [.ok ⟨"INDENT", "  ".toList, 1, 1⟩, .ok ⟨"INDENT", "    ".toList, 2, 1⟩,
        .ok ⟨"DEINDENT", [], 3, 1⟩, .ok ⟨"NEWLINE", [], 5, 1⟩, .ok ⟨"WORD", ['a'], 5, 1⟩] :=
    congrArg (List.map Answer.result) made
  have fine : ∀ result ∈ results (Collapsed.of staircaseReplay false) (4 + 1),
      ∃ token, result = .ok token := by
    rw [handed]
    simp
  rw [results_add, List.forall_mem_append] at fine
  have counted : Transcript.popped leveled.1 =
      [.ok ⟨"INDENT", "  ".toList, 1, 1⟩, .ok ⟨"INDENT", "    ".toList, 2, 1⟩,
        .ok ⟨"DEINDENT", "  ".toList, 3, 1⟩, .ok ⟨"DEINDENT", [], 3, 1⟩] := rfl
  have idle : leveled.2.stage.pending = [] := rfl
  obtain ⟨filters, lists⟩ := come_off stopped
  obtain ⟨count, taken⟩ := (filters staircaseReplay).collapsed false (by
    rw [popped_calls]
    exact fine.1)
  obtain ⟨count', taken'⟩ := (filters staircaseReplay).leveled "  ".toList (by
    show ∀ result ∈ Transcript.popped leveled.1, _
    rw [counted]
    simp) idle
  have pulls := (lists _ _ _ taken.back).1
  have pulls' := (lists _ _ _ taken'.back).1
  rw [show staircaseReplay.pulls = 0 from rfl, Nat.zero_add] at pulls pulls'
  exact ⟨stopped, ⟨count, taken, pulls⟩, count', taken', pulls'⟩

end Offside
