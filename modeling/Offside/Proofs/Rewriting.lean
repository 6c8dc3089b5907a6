/-
**Filters as machines over answers.**

A filter takes the tokens of a source one by one, and for each of them it hands out some tokens or
fails. `Rewriter` is what it does with one token; `Rewriter.run` is what becomes of a list of
answers. The first failure, of the source or of the filter, is repeated from then on.

* `run_append`, `extends_run`: a run on more answers goes on where the run on the first ones stops;
* `renders_of_live`: a filter that handles every single answer as the machine does hands out what
  the machine makes of the answers of its source. The induction is on the answers fed, with the
  relation `Stands` between filter, source and machine as its invariant;
* `forall_mem_run`: what a machine keeps token by token holds of all that it hands out;
* `exists_isEnd_run`: a machine that lets the end of input through ends where its source ends.
-/

import Offside.Proofs.Answers
import Offside.Source.Buffered

namespace Offside

/-- What a filter does with one token: it hands out some tokens and goes on in another state. -/
abbrev Rewriter (ς : Type) := ς → View → Token → Except Failure (List Token × ς)

namespace Rewriter

variable {ς : Type} (rewrite : Rewriter ς)

/-- Feeds an answer to a machine that stands in a state, or at the answer with which it failed. -/
def feed : Except Answer ς → Answer → List Answer × Except Answer ς
  | .error failed, _ => ([failed], .error failed)
  | .ok _, ⟨.error failure, view⟩ => ([⟨.error failure, view⟩], .error ⟨.error failure, view⟩)
  | .ok state, ⟨.ok token, view⟩ =>
    match rewrite state view token with
    | .error failure => ([⟨.error failure, view⟩], .error ⟨.error failure, view⟩)
    | .ok (tokens, state) => (tokens.map fun token => ⟨.ok token, view⟩, .ok state)

/-- What the machine makes of a list of answers. -/
def run : Except Answer ς → List Answer → List Answer
  | _, [] => []
  | stand, answer :: rest =>
    (feed rewrite stand answer).1 ++ run (feed rewrite stand answer).2 rest

/-- Where the machine stands after a list of answers. -/
def finish (stand : Except Answer ς) (list : List Answer) : Except Answer ς :=
  list.foldl (fun stand answer => (feed rewrite stand answer).2) stand

theorem run_append (stand : Except Answer ς) (first second : List Answer) :
    run rewrite stand (first ++ second) =
      run rewrite stand first ++ run rewrite (finish rewrite stand first) second := by
  induction first generalizing stand with
  | nil => rfl
  | cons answer rest ih =>
    rw [List.cons_append, run, ih, run, List.append_assoc]
    rfl

theorem extends_run (stand : Except Answer ς) : TokenSource.Extends (run rewrite stand) := by
  rintro shorter _ ⟨more, rfl⟩
  rw [run_append]
  exact List.prefix_append _ _

/-- A machine that has failed repeats its failure. -/
theorem run_failed (failed : Answer) (list : List Answer) :
    run rewrite (.error failed) list = List.replicate list.length failed := by
  induction list with
  | nil => rfl
  | cons answer rest ih => rw [run, feed, ih]; rfl

/-- A token on which the machine goes on. -/
theorem feed_ok {state later : ς} {view : View} {token : Token} {tokens : List Token}
    (accepted : rewrite state view token = .ok (tokens, later)) :
    feed rewrite (.ok state) ⟨.ok token, view⟩ =
      (tokens.map fun token => ⟨.ok token, view⟩, .ok later) := by
  rw [feed, accepted]

/-- A token on which the machine fails. -/
theorem feed_refused {state : ς} {view : View} {token : Token} {failure : Failure}
    (refused : rewrite state view token = .error failure) :
    feed rewrite (.ok state) ⟨.ok token, view⟩ =
      ([⟨.error failure, view⟩], .error ⟨.error failure, view⟩) := by
  rw [feed, refused]

/-- A failure of the source is repeated. -/
theorem run_error (state : ς) (failure : Failure) (view : View) (rest : List Answer) :
    run rewrite (.ok state) (⟨.error failure, view⟩ :: rest) =
      List.replicate (rest.length + 1) ⟨.error failure, view⟩ := by
  rw [run, feed, run_failed]
  rfl

/-- A failure of the machine is repeated. -/
theorem run_refused {state : ς} {view : View} {token : Token} {failure : Failure}
    (refused : rewrite state view token = .error failure) (rest : List Answer) :
    run rewrite (.ok state) (⟨.ok token, view⟩ :: rest) =
      List.replicate (rest.length + 1) ⟨.error failure, view⟩ := by
  rw [run, feed_refused rewrite refused, run_failed]
  rfl

theorem run_accepted {state later : ς} {view : View} {token : Token} {tokens : List Token}
    (accepted : rewrite state view token = .ok (tokens, later)) (rest : List Answer) :
    run rewrite (.ok state) (⟨.ok token, view⟩ :: rest) =
      tokens.map (fun token => ⟨.ok token, view⟩) ++ run rewrite (.ok later) rest := by
  rw [run, feed_ok rewrite accepted]

/-- A machine that hands out something for every token hands out something for every answer. -/
theorem feed_ne_nil
    (loud : ∀ state view token later, rewrite state view token ≠ .ok ([], later))
    (stand : Except Answer ς) (given : Answer) : (feed rewrite stand given).1 ≠ [] := by
  match stand, given with
  | .error failed, _ => exact List.cons_ne_nil _ _
  | .ok state, ⟨.error failure, view⟩ => exact List.cons_ne_nil _ _
  | .ok state, ⟨.ok token, view⟩ =>
    cases produced : rewrite state view token with
    | error failure =>
      rw [feed_refused rewrite produced]
      exact List.cons_ne_nil _ _
    | ok handed =>
      obtain ⟨tokens, later⟩ := handed
      rw [feed_ok rewrite produced]
      intro empty
      rw [List.map_eq_nil_iff.mp empty] at produced
      exact loud _ _ _ _ produced

theorem length_le_length_run
    (loud : ∀ state view token later, rewrite state view token ≠ .ok ([], later))
    (stand : Except Answer ς) (list : List Answer) :
    list.length ≤ (run rewrite stand list).length := by
  induction list generalizing stand with
  | nil => exact Nat.le_refl _
  | cons first rest ih =>
    have positive := List.length_pos_iff.mpr (feed_ne_nil rewrite loud stand first)
    have onward := ih (feed rewrite stand first).2
    rw [run, List.length_append, List.length_cons]
    omega

/-- As long as a machine hands out tokens only, it has not failed. -/
theorem exists_finish_eq_ok {list : List Answer} {state : ς}
    (fine : ∀ answer ∈ run rewrite (.ok state) list, ∃ token, answer.result = .ok token) :
    ∃ later, finish rewrite (.ok state) list = .ok later := by
  induction list generalizing state with
  | nil => exact ⟨state, rfl⟩
  | cons first rest ih =>
    obtain ⟨result, view⟩ := first
    have failed : ∀ {failure : Failure}, run rewrite (.ok state) (⟨result, view⟩ :: rest) =
        List.replicate (rest.length + 1) ⟨.error failure, view⟩ → False := by
      intro failure same
      rw [same] at fine
      obtain ⟨token, absent⟩ := fine _ List.mem_cons_self
      cases absent
    cases result with
    | error failure => exact (failed (run_error rewrite state failure view rest)).elim
    | ok token =>
      cases produced : rewrite state view token with
      | error failure => exact (failed (run_refused rewrite produced rest)).elim
      | ok handed =>
        obtain ⟨tokens, later⟩ := handed
        rw [run_accepted rewrite produced] at fine
        obtain ⟨last, ends⟩ := ih fun answer member => fine answer (List.mem_append_right _ member)
        refine ⟨last, ?_⟩
        rw [← ends, finish, List.foldl_cons, feed_ok rewrite produced]
        rfl

/-- What a machine keeps token by token holds of all that it hands out. -/
theorem forall_mem_run {rewrite : Rewriter ς} {Good : ς → Prop}
    {given made : Answer → Prop}
    (accepts : ∀ {state view token tokens later}, Good state → given ⟨.ok token, view⟩ →
      rewrite state view token = .ok (tokens, later) →
      Good later ∧ ∀ handed ∈ tokens, made ⟨.ok handed, view⟩)
    (refuses : ∀ {state view token failure}, Good state → given ⟨.ok token, view⟩ →
      rewrite state view token = .error failure → made ⟨.error failure, view⟩)
    (fails : ∀ failure view, given ⟨.error failure, view⟩ → made ⟨.error failure, view⟩)
    {state : ς} (good : Good state) {list : List Answer} (all : ∀ answer ∈ list, given answer) :
    ∀ answer ∈ run rewrite (.ok state) list, made answer := by
  induction list generalizing state with
  | nil => exact List.forall_mem_nil _
  | cons first rest ih =>
    obtain ⟨here, others⟩ := List.forall_mem_cons.mp all
    obtain ⟨result, view⟩ := first
    cases result with
    | error failure =>
      rw [run_error]
      intro answer member
      rw [List.eq_of_mem_replicate member]
      exact fails failure view here
    | ok token =>
      cases produced : rewrite state view token with
      | error failure =>
        rw [run_refused rewrite produced]
        intro answer member
        rw [List.eq_of_mem_replicate member]
        exact refuses good here produced
      | ok handed =>
        obtain ⟨tokens, later⟩ := handed
        obtain ⟨onward, each⟩ := accepts good here produced
        rw [run_accepted rewrite produced]
        refine List.forall_mem_append.mpr ⟨?_, ih onward others⟩
        intro answer member
        obtain ⟨token, inTokens, rfl⟩ := List.mem_map.mp member
        exact each token inTokens

/-- A machine that hands out each end of input, or fails at it, ends where its source ends. -/
theorem exists_isEnd_run {eof : String}
    (passes : ∀ {state view token tokens later}, rewrite state view token = .ok (tokens, later) →
      token.kind = eof → ∃ passed ∈ tokens, passed.kind = eof)
    (stand : Except Answer ς) (sound : ∀ failed, stand = .error failed → failed.IsEnd eof)
    {list : List Answer} (ended : ∃ answer ∈ list, answer.IsEnd eof) :
    ∃ answer ∈ run rewrite stand list, answer.IsEnd eof := by
  induction list generalizing stand with
  | nil => obtain ⟨_, absent, _⟩ := ended; cases absent
  | cons first rest ih =>
    rw [run]
    match stand, first with
    | .error failed, _ => exact ⟨failed, List.mem_cons_self, sound failed rfl⟩
    | .ok state, ⟨.error failure, view⟩ => exact ⟨_, List.mem_cons_self, trivial⟩
    | .ok state, ⟨.ok token, view⟩ =>
      cases produced : rewrite state view token with
      | error failure =>
        rw [feed_refused rewrite produced]
        exact ⟨_, List.mem_cons_self, trivial⟩
      | ok handed =>
        obtain ⟨tokens, later⟩ := handed
        rw [feed_ok rewrite produced]
        obtain ⟨answer, member, isEnd⟩ := ended
        rcases List.mem_cons.mp member with rfl | member
        · obtain ⟨passed, handed, kind⟩ := passes produced isEnd
          exact ⟨⟨.ok passed, view⟩,
            List.mem_append_left _ (List.mem_map.mpr ⟨passed, handed, rfl⟩),
            kind⟩
        · obtain ⟨last, inRun, isEnd⟩ :=
            ih (.ok later) of_ok ⟨answer, member, isEnd⟩
          exact ⟨last, List.mem_append_right _ inRun, isEnd⟩

/-! ### Filters that follow a machine -/

section Follow

open TokenSource

variable {σ ζ : Type} [TokenSource σ] [TokenStage ζ]

/-- A machine that hands out nothing for some tokens, but never for an end of input, hands out
something for enough answers of a source. -/
theorem exists_run_ne_nil {kinds : ReservedKinds}
    (silent : ∀ {state view token later}, rewrite state view token = .ok ([], later) →
      token.kind ≠ kinds.eof)
    (s : σ) (same : reserved s = kinds) (stand : Except Answer ς) :
    ∃ count, run rewrite stand (answers s count) ≠ [] := by
  induction s using (follows_wf (σ := σ)).induction generalizing stand with
  | _ s ih =>
    by_cases quiet : (feed rewrite stand (answer s)).1 = []
    · have follows : Follows (pop s).2 s := by
        rcases stand with failed | state
        · cases quiet
        · unfold answer at quiet
          cases popped : (pop s).1 with
          | error failure => rw [popped] at quiet; cases quiet
          | ok token =>
            rw [popped] at quiet
            cases produced : rewrite state (view (pop s).2) token with
            | error failure => rw [feed_refused rewrite produced] at quiet; cases quiet
            | ok handed =>
              obtain ⟨tokens, later⟩ := handed
              rw [feed_ok rewrite produced] at quiet
              obtain rfl := List.map_eq_nil_iff.mp quiet
              exact ⟨token, Prod.ext popped rfl, same ▸ silent produced⟩
      obtain ⟨count, loud⟩ :=
        ih _ follows (by rw [reserved_pop, same]) (feed rewrite stand (answer s)).2
      refine ⟨count + 1, ?_⟩
      rw [answers, run, quiet]
      exact loud
    · refine ⟨1, ?_⟩
      rw [answers, run]
      exact fun empty => quiet (List.append_eq_nil_iff.mp empty).1

theorem exists_le_length_run {kinds : ReservedKinds}
    (silent : ∀ {state view token later}, rewrite state view token = .ok ([], later) →
      token.kind ≠ kinds.eof)
    (count : Nat) (s : σ) (same : reserved s = kinds) (stand : Except Answer ς) :
    ∃ enough, count ≤ (run rewrite stand (answers s enough)).length := by
  induction count generalizing s stand with
  | zero => exact ⟨0, Nat.zero_le _⟩
  | succ count ih =>
    obtain ⟨first, loud⟩ := exists_run_ne_nil rewrite silent s same stand
    obtain ⟨second, longer⟩ := ih (after s first) (by rw [reserved_after, same])
      (finish rewrite stand (answers s first))
    refine ⟨first + second, ?_⟩
    have positive := List.length_pos_iff.mpr loud
    rw [answers_add, run_append, List.length_append]
    omega

/-- How a filter, its source and the machine stand to each other between two answers of the source.
`Live` relates them as long as nothing has failed. -/
def Stands (Live : ζ → σ → ς → Prop) (filter : Buffered ζ) (s : σ) : Except Answer ς → Prop
  | .error failed =>
    filter.lookahead = none ∧
      ∃ failure, filter.failure = some failure ∧ failed = ⟨.error failure, view filter⟩
  | .ok state => filter.lookahead = none ∧ filter.failure = none ∧ Live filter.stage s state

/-- The filter hands out what the machine makes of one answer, and both go on alike. -/
def Handles (Live : ζ → σ → ς → Prop) (filter : Buffered ζ) (s : σ)
    (fed : List Answer × Except Answer ς) : Prop :=
  answers filter fed.1.length = fed.1 ∧
    Stands Live (after filter fed.1.length) (pop s).2 fed.2

variable {rewrite} {Live : ζ → σ → ς → Prop}

theorem pop_produced {stage later : ζ} {token : Token}
    (produced : TokenStage.next stage = (.ok token, later)) :
    pop (⟨stage, none, none⟩ : Buffered ζ) = (.ok token, ⟨later, none, none⟩) := by
  show Buffered.pop _ = _
  rw [Buffered.pop, produced]

theorem pop_failed {stage later : ζ} {failure : Failure}
    (failed : TokenStage.next stage = (.error failure, later)) :
    pop (⟨stage, none, none⟩ : Buffered ζ) = (.error failure, ⟨later, none, some failure⟩) := by
  show Buffered.pop _ = _
  rw [Buffered.pop, failed]

/-- A filter whose stage fails, where the machine fails too. -/
theorem handles_error {stage later : ζ} {s : σ} {failure : Failure} {shown : View}
    (failed : TokenStage.next stage = (.error failure, later))
    (seen : view (⟨later, none, some failure⟩ : Buffered ζ) = shown) :
    Handles Live ⟨stage, none, none⟩ s ([⟨.error failure, shown⟩],
      .error ⟨.error failure, shown⟩) := by
  have popped := pop_failed failed
  refine ⟨?_, ?_⟩
  · show [answer _] = _
    rw [answer, popped, seen]
  · show Stands Live (pop _).2 _ _
    rw [popped]
    exact ⟨rfl, failure, rfl, by rw [seen]⟩

/-- A filter that has nothing to hand out. -/
theorem handles_nil {stage : ζ} {s : σ} {state : ς} (related : Live stage (pop s).2 state) :
    Handles Live ⟨stage, none, none⟩ s ([], .ok state) := ⟨rfl, rfl, rfl, related⟩

/-- A filter whose stage produces a token, and then what else the machine hands out. -/
theorem handles_cons {stage later : ζ} {s : σ} {token : Token} {shown : View} {rest : List Answer}
    {stand : Except Answer ς} (produced : TokenStage.next stage = (.ok token, later))
    (seen : view (⟨later, none, none⟩ : Buffered ζ) = shown)
    (onward : Handles Live ⟨later, none, none⟩ s (rest, stand)) :
    Handles Live ⟨stage, none, none⟩ s (⟨.ok token, shown⟩ :: rest, stand) := by
  have popped := pop_produced produced
  obtain ⟨now, stands⟩ := onward
  refine ⟨?_, ?_⟩
  · rw [List.length_cons, answers, answer, popped, now, seen]
  · rw [List.length_cons, after, popped]
    exact stands

theorem handles_failed {filter : Buffered ζ} {s : σ} {failed : Answer} {given : Answer}
    (stands : Stands Live filter s (.error failed)) :
    Handles Live filter s (feed rewrite (.error failed) given) := by
  obtain ⟨empty, failure, recorded, rfl⟩ := stands
  have stays : pop filter = (.error failure, filter) := Buffered.pop_of_failure empty recorded
  have once : answer filter = ⟨.error failure, view filter⟩ := by rw [answer, stays]
  refine ⟨?_, ?_⟩
  · show [answer filter] = _
    rw [once]
    rfl
  · show Stands Live (pop filter).2 _ _
    rw [stays]
    exact ⟨empty, failure, recorded, rfl⟩

/-- A filter that stands to the machine handles the next answer as the machine does. -/
theorem handles_of_stands
    (live : ∀ {stage s state}, Live stage s state →
      Handles Live ⟨stage, none, none⟩ s (feed rewrite (.ok state) (answer s)))
    {filter : Buffered ζ} {s : σ} {stand : Except Answer ς} (stands : Stands Live filter s stand) :
    Handles Live filter s (feed rewrite stand (answer s)) := by
  rcases stand with failed | state
  · exact handles_failed stands
  · obtain ⟨stage, lookahead, failure⟩ := filter
    obtain ⟨rfl, rfl, related⟩ := stands
    exact live related

/-- A filter follows the machine over any number of answers. -/
theorem answers_eq_run
    (live : ∀ {stage s state}, Live stage s state →
      Handles Live ⟨stage, none, none⟩ s (feed rewrite (.ok state) (answer s)))
    {filter : Buffered ζ} {s : σ} {stand : Except Answer ς} (stands : Stands Live filter s stand)
    (count : Nat) :
    answers filter (run rewrite stand (answers s count)).length =
      run rewrite stand (answers s count) := by
  induction count generalizing filter s stand with
  | zero => rfl
  | succ count ih =>
    obtain ⟨now, onward⟩ := handles_of_stands live stands
    rw [answers, run, List.length_append, answers_add, now, ih onward]

/-- After any number of answers the filter stands to the machine as before. -/
theorem stands_run
    (live : ∀ {stage s state}, Live stage s state →
      Handles Live ⟨stage, none, none⟩ s (feed rewrite (.ok state) (answer s)))
    {filter : Buffered ζ} {s : σ} {stand : Except Answer ς} (stands : Stands Live filter s stand)
    (count : Nat) :
    Stands Live (after filter (run rewrite stand (answers s count)).length) (after s count)
      (finish rewrite stand (answers s count)) := by
  induction count generalizing filter s stand with
  | zero => exact stands
  | succ count ih =>
    obtain ⟨_, onward⟩ := handles_of_stands live stands
    rw [answers, run, List.length_append, after_add, after]
    exact ih onward

/-- **A filter that handles each answer as a machine does renders what the machine makes.** -/
theorem renders_of_live
    (live : ∀ {stage s state}, Live stage s state →
      Handles Live ⟨stage, none, none⟩ s (feed rewrite (.ok state) (answer s)))
    (kinds : ReservedKinds)
    (silent : ∀ {state view token later}, rewrite state view token = .ok ([], later) →
      token.kind ≠ kinds.eof)
    {filter : Buffered ζ} {s : σ} {stand : Except Answer ς} (stands : Stands Live filter s stand)
    (same : reserved s = kinds) : Renders filter s (run rewrite stand) := by
  intro count
  obtain ⟨enough, le⟩ := exists_le_length_run rewrite silent count s same stand
  refine ⟨enough, ?_⟩
  rw [← answers_eq_run live stands enough]
  exact prefix_answers_of_le filter le

end Follow

end Rewriter

end Offside
