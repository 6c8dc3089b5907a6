/-
**The order of filters.**

Collapsing drops newlines and looks ahead for what follows them; counting levels makes several
deindents of one, and may fail. It does not matter which of the two is done first, and collapsing
twice does no more than collapsing once.

* `Leveled.run_plain`, `Collapsed.run_others`: what each machine passes through;
* `runs_agree`: fed with the same answers, the two machines make the same of them in either order.
  The induction is on the answers, with `agree_other` for what is no newline; both sides keep the
  same level and the same memory. Only after a failure they part, since one of them repeats the
  failure more often than the other;
* `answers_leveled_collapsed`: the filters answer alike in either order;
* `Collapsed.run_run`: two machines in a row that collapse make of all answers what one of them
  makes, by induction on the answers. The outer one never holds a newline back that the inner one
  will still replace;
* `answers_collapsed_collapsed`: two filters that collapse answer as one does that trims if one of
  them does.
-/

import Offside.Proofs.Collapsing
import Offside.Proofs.Leveling
import Offside.Source.Replay

namespace Offside

open TokenSource

namespace Leveled

variable {kinds : ReservedKinds} {unit : List Char}

/-- Only indents and deindents are refused. -/
theorem indentation_of_refused {level : Nat} {view : View} {token : Token} {failure : Failure}
    (refused : rewriter kinds unit level view token = .error failure) :
    token.kind = kinds.indent ∨ token.kind = kinds.deindent := by
  cases refused_of_rewriter refused with
  | indent isIndent => exact .inl isIndent
  | deindent _ isDeindent => exact .inr isDeindent

/-- Tokens that are no indentation pass through. -/
theorem run_plain (level : Nat) (front : List Answer)
    (plain : ∀ answer ∈ front, answer.Gives (Plain kinds)) (rest : List Answer) :
    (rewriter kinds unit).run (.ok level) (front ++ rest) =
      front ++ (rewriter kinds unit).run (.ok level) rest := by
  induction front with
  | nil => rfl
  | cons answer front ih =>
    obtain ⟨result, view⟩ := answer
    obtain ⟨token, rfl, here⟩ := plain _ List.mem_cons_self
    rw [List.cons_append, Rewriter.run, Rewriter.feed_ok _ (rewriter_of_plain level view here),
      ih fun other member => plain other (List.mem_cons_of_mem _ member)]
    rfl

end Leveled

namespace Collapsed

variable {kinds : ReservedKinds} {trim : Bool}

theorem drops_congr {first : Bool} {one other : Token} (same : one.kind = other.kind) :
    drops kinds trim first one = drops kinds trim first other := by
  rw [drops, drops, same]

/-- Newlines are dropped before every indentation. -/
theorem drops_of_indentation {first : Bool} {token : Token}
    (indentation : token.kind = kinds.indent ∨ token.kind = kinds.deindent) :
    drops kinds trim first token = true := by
  rcases indentation with kind | kind <;> simp [drops, kind]

/-- Once something was handed out and nothing is held back, all but newlines pass through. -/
theorem run_others (front : List Answer)
    (others : ∀ answer ∈ front, answer.Gives fun token => token.kind ≠ kinds.newline)
    (rest : List Answer) :
    (rewriter kinds trim).run (.ok ⟨false, none⟩) (front ++ rest) =
      front ++ (rewriter kinds trim).run (.ok ⟨false, none⟩) rest := by
  induction front with
  | nil => rfl
  | cons answer front ih =>
    obtain ⟨result, view⟩ := answer
    obtain ⟨token, rfl, other⟩ := others _ List.mem_cons_self
    have passes := @rewriter_other kinds trim ⟨false, none⟩ view token other
    rw [Option.toList_none, ite_self, List.nil_append] at passes
    rw [List.cons_append, Rewriter.run, Rewriter.feed_ok _ passes,
      ih fun other member => others other (List.mem_cons_of_mem _ member)]
    rfl

end Collapsed

section Order

variable {kinds : ReservedKinds} (trim : Bool) (unit : List Char)

/-- The machines make the same of a list of answers in either order, from a level and a memory. -/
def OrdersAgree (kinds : ReservedKinds) (trim : Bool) (unit : List Char) (level : Nat)
    (memory : CollapseMemory) (list : List Answer) : Prop :=
  Agree
    ((Leveled.rewriter kinds unit).run (.ok level)
      ((Collapsed.rewriter kinds trim).run (.ok memory) list))
    ((Collapsed.rewriter kinds trim).run (.ok memory)
      ((Leveled.rewriter kinds unit).run (.ok level) list))

/-- Two machines one after the other repeat the failure of the first. -/
theorem run_run_failed {ς θ : Type} (first : Rewriter ς) (second : Rewriter θ) (stand : θ)
    (failure : Failure) (view : View) (list : List Answer) :
    second.run (.ok stand) (⟨.error failure, view⟩ ::
      first.run (.error ⟨.error failure, view⟩) list) =
      List.replicate (list.length + 1) ⟨.error failure, view⟩ := by
  rw [Rewriter.run_failed, Rewriter.run, Rewriter.feed, Rewriter.run_failed, List.length_replicate]
  rfl

/-- Fed with a token that is no newline, the machines hand out the newline that was held back and
what becomes of the token, in either order. -/
theorem agree_other (noIndent : kinds.newline ≠ kinds.indent)
    (noDeindent : kinds.newline ≠ kinds.deindent) (level : Nat) (memory : CollapseMemory)
    (newlines : ∀ newline, memory.held = some newline → newline.kind = kinds.newline)
    {token : Token} (other : token.kind ≠ kinds.newline) (view : View) {rest : List Answer}
    (onward : ∀ later, OrdersAgree kinds trim unit later ⟨false, none⟩ rest) :
    OrdersAgree kinds trim unit level memory (⟨.ok token, view⟩ :: rest) := by
  unfold OrdersAgree
  rw [Rewriter.run, Rewriter.run, Rewriter.feed_ok _ (Collapsed.rewriter_other other)]
  generalize kept : (if Collapsed.drops kinds trim memory.first token then []
    else memory.held.toList) = front
  have plain : ∀ answer ∈ front.map (fun token => (⟨.ok token, view⟩ : Answer)),
      answer.Gives (Plain kinds) := by
    intro answer member
    obtain ⟨held, inFront, rfl⟩ := List.mem_map.mp member
    refine ⟨held, rfl, ?_⟩
    rw [← kept] at inFront
    rw [Plain, Collapsed.kind_of_mem_kept newlines inFront]
    exact ⟨noIndent, noDeindent⟩
  simp only
  rw [List.map_append, List.append_assoc, Leveled.run_plain _ _ plain, List.map_cons,
    List.map_nil, List.singleton_append, Rewriter.run]
  cases produced : Leveled.rewriter kinds unit level view token with
  | error failure =>
    -- What is refused is an indentation, so no newline comes before it.
    have dropped : Collapsed.drops kinds trim memory.first token = true :=
      Collapsed.drops_of_indentation (Leveled.indentation_of_refused produced)
    rw [if_pos dropped] at kept
    subst kept
    rw [Rewriter.feed_refused _ produced]
    simp only [List.map_nil, List.nil_append, List.singleton_append]
    rw [run_run_failed, Rewriter.run_failed]
    exact agree_replicate (_ + 1) _ _
  | ok handed =>
    obtain ⟨tokens, later⟩ := handed
    have kinds_same := Leveled.kind_of_rewriter produced
    obtain ⟨head, tail, rfl⟩ := List.exists_cons_of_ne_nil (Leveled.rewriter_ne_nil produced)
    have headKind := kinds_same head List.mem_cons_self
    have others : ∀ answer ∈ tail.map (fun token => (⟨.ok token, view⟩ : Answer)),
        answer.Gives fun token => token.kind ≠ kinds.newline := by
      intro answer member
      obtain ⟨handed, inTail, rfl⟩ := List.mem_map.mp member
      refine ⟨handed, rfl, ?_⟩
      show handed.kind ≠ kinds.newline
      rw [kinds_same handed (List.mem_cons_of_mem _ inTail)]
      exact other
    rw [Rewriter.feed_ok _ produced]
    simp only [List.map_cons, List.cons_append]
    rw [Rewriter.run, Rewriter.feed_ok _ (Collapsed.rewriter_other (headKind ▸ other)),
      Collapsed.drops_congr headKind, kept]
    simp only
    rw [Collapsed.run_others _ others, List.map_append, List.append_assoc, List.map_cons,
      List.map_nil, List.singleton_append, ← List.cons_append, ← List.cons_append]
    exact ((onward later).append_left _).append_left _

/-- **The two machines make the same of all answers in either order.** -/
theorem runs_agree (noIndent : kinds.newline ≠ kinds.indent)
    (noDeindent : kinds.newline ≠ kinds.deindent) (level : Nat) (memory : CollapseMemory)
    (newlines : ∀ newline, memory.held = some newline → newline.kind = kinds.newline)
    (list : List Answer) : OrdersAgree kinds trim unit level memory list := by
  induction list generalizing level memory with
  | nil => exact .inl (List.prefix_refl _)
  | cons first rest ih =>
    obtain ⟨result, view⟩ := first
    cases result with
    | error failure =>
      unfold OrdersAgree
      rw [Rewriter.run, Rewriter.run, Rewriter.feed, Rewriter.feed]
      simp only [List.singleton_append]
      rw [run_run_failed, run_run_failed]
      exact agree_replicate _ _ _
    | ok token =>
      by_cases newline : token.kind = kinds.newline
      · -- The newline is held back on both sides, and nothing comes out of either.
        have passes : Leveled.rewriter kinds unit level view token = .ok ([token], level) :=
          Leveled.rewriter_of_plain level view ⟨newline ▸ noIndent, newline ▸ noDeindent⟩
        unfold OrdersAgree
        rw [Rewriter.run, Rewriter.run, Rewriter.feed_ok _ (Collapsed.rewriter_newline newline),
          Rewriter.feed_ok _ passes]
        simp only [List.map_nil, List.nil_append, List.map_cons, List.singleton_append]
        rw [Rewriter.run, Rewriter.feed_ok _ (Collapsed.rewriter_newline newline)]
        exact ih level _ fun held same => Option.some.inj same ▸ newline
      · exact agree_other trim unit noIndent noDeindent level memory newlines newline view
          fun later => ih later ⟨false, none⟩ of_none

end Order

/-- **Collapsing newlines and counting levels may be done in either order.** Over every source whose
newlines are told from indents, deindents and the end of input by their kind, each pop returns the
same token or the same failure, with the same line and padding to be seen afterwards. -/
theorem answers_leveled_collapsed {σ : Type} [TokenSource σ] (source : σ) (unit : List Char)
    (trim : Bool) (noIndent : (reserved source).newline ≠ (reserved source).indent)
    (noDeindent : (reserved source).newline ≠ (reserved source).deindent)
    (noEof : (reserved source).newline ≠ (reserved source).eof) (count : Nat) :
    answers (Leveled.of (Collapsed.of source trim) unit) count =
      answers (Collapsed.of (Leveled.of source unit) trim) count := by
  have collapsedFirst := (Leveled.renders (Collapsed.of source trim) unit).comp
    (Rewriter.extends_run _ _) (Collapsed.renders source trim noEof)
  have leveledFirst := (Collapsed.renders (Leveled.of source unit) trim noEof).comp
    (Rewriter.extends_run _ _) (Leveled.renders source unit)
  refine collapsedFirst.agree leveledFirst ?_ ?_ ?_ count
  · exact (Rewriter.extends_run _ _).comp (Rewriter.extends_run _ _)
  · exact (Rewriter.extends_run _ _).comp (Rewriter.extends_run _ _)
  · exact runs_agree trim unit noIndent noDeindent 0 {} of_none

/-- A list with newlines before an indent, before two deindents at once, before an indent that is no
whole number of units and before a failure. -/
def mixedReplay : Replay :=
  ⟨[.ok ⟨"NEWLINE", [], 1, 1⟩, .ok ⟨"NEWLINE", [], 2, 1⟩, .ok ⟨"WORD", ['a'], 2, 1⟩,
    .ok ⟨"NEWLINE", [], 3, 1⟩, .ok ⟨"INDENT", "  ".toList, 4, 1⟩, .ok ⟨"WORD", ['b'], 4, 3⟩,
    .ok ⟨"INDENT", "    ".toList, 5, 1⟩, .ok ⟨"WORD", ['c'], 5, 5⟩, .ok ⟨"NEWLINE", [], 6, 1⟩,
    .ok ⟨"NEWLINE", [], 7, 1⟩, .ok ⟨"DEINDENT", [], 8, 1⟩, .ok ⟨"WORD", ['d'], 8, 1⟩,
    .ok ⟨"NEWLINE", [], 9, 1⟩, .ok ⟨"INDENT", "   ".toList, 10, 1⟩, .error .malformedText], 0⟩

/-- The hypotheses hold for a list that meets all branches of both filters. -/
theorem answers_mixedReplay :
    (reserved mixedReplay).newline ≠ (reserved mixedReplay).indent ∧
      (reserved mixedReplay).newline ≠ (reserved mixedReplay).deindent ∧
      (reserved mixedReplay).newline ≠ (reserved mixedReplay).eof ∧
      answers (Leveled.of (Collapsed.of mixedReplay true) "  ".toList) 20 =
        answers (Collapsed.of (Leveled.of mixedReplay "  ".toList) true) 20 := by
  have noIndent : (reserved mixedReplay).newline ≠ (reserved mixedReplay).indent := by decide
  have noDeindent : (reserved mixedReplay).newline ≠ (reserved mixedReplay).deindent := by decide
  have noEof : (reserved mixedReplay).newline ≠ (reserved mixedReplay).eof := by decide
  exact ⟨noIndent, noDeindent, noEof,
    answers_leveled_collapsed mixedReplay "  ".toList true noIndent noDeindent noEof 20⟩

/-! ### Collapsing twice -/

namespace Collapsed

variable {kinds : ReservedKinds} {inner outer trim : Bool}

/-- One of two filters in a row drops a newline exactly if a filter drops it that trims whenever one
of the two does. -/
theorem drops_or (first : Bool) (token : Token) :
    drops kinds (inner || outer) first token =
      (drops kinds inner first token || drops kinds outer first token) := by
  unfold drops
  cases inner <;> cases outer <;> cases token.kind == kinds.indent <;>
    cases token.kind == kinds.deindent <;> simp

/-- A machine that holds nothing back and is fed with at most one newline and what follows it does
with the newline what it does with a newline that it holds back. -/
theorem run_kept {first : Bool} {kept : Option Token}
    (newlines : ∀ newline, kept = some newline → newline.kind = kinds.newline) {token : Token}
    (other : token.kind ≠ kinds.newline) (view : View) (rest : List Answer) :
    (rewriter kinds trim).run (.ok ⟨first, none⟩)
        ((kept.toList ++ [token]).map (fun token => ⟨.ok token, view⟩) ++ rest) =
      ((if drops kinds trim first token then [] else kept.toList) ++ [token]).map
          (fun token => ⟨.ok token, view⟩) ++
        (rewriter kinds trim).run (.ok ⟨false, none⟩) rest := by
  cases kept with
  | none =>
    have passes := @rewriter_other kinds trim ⟨first, none⟩ view token other
    exact Rewriter.run_accepted _ passes rest
  | some newline =>
    have holds := @rewriter_newline kinds trim ⟨first, none⟩ view newline (newlines newline rfl)
    have passes := @rewriter_other kinds trim ⟨first, some newline⟩ view token other
    simp only [Option.toList_some, List.map_cons, List.map_nil, List.cons_append, List.nil_append]
    rw [Rewriter.run_accepted _ holds, Rewriter.run_accepted _ passes]
    rfl

/-- What two filters in a row let through of a newline that the inner one holds back. -/
theorem kept_kept (first : Bool) (held : Option Token) (token : Token) :
    (if drops kinds outer first token then []
      else (if drops kinds inner first token then none else held).toList) =
      if drops kinds (inner || outer) first token then [] else held.toList := by
  rw [drops_or]
  cases drops kinds inner first token <;> cases drops kinds outer first token <;> rfl

/-- **Two machines in a row make of all answers what one makes that trims whenever one of them
does.** The induction is on the answers; whatever the inner machine holds back, the outer one holds
nothing, for a newline is handed out only together with the token behind it. -/
theorem run_run (first : Bool) (held : Option Token)
    (newlines : ∀ newline, held = some newline → newline.kind = kinds.newline)
    (list : List Answer) :
    (rewriter kinds outer).run (.ok ⟨first, none⟩)
        ((rewriter kinds inner).run (.ok ⟨first, held⟩) list) =
      (rewriter kinds (inner || outer)).run (.ok ⟨first, held⟩) list := by
  induction list generalizing first held with
  | nil => rfl
  | cons answer rest ih =>
    obtain ⟨result, view⟩ := answer
    cases result with
    | error failure =>
      rw [Rewriter.run, Rewriter.feed, Rewriter.run_error]
      exact run_run_failed _ _ _ failure view rest
    | ok token =>
      by_cases newline : token.kind = kinds.newline
      · -- The inner machine holds the newline back in place of the one before it.
        rw [Rewriter.run_accepted _ (rewriter_newline newline),
          Rewriter.run_accepted _ (rewriter_newline newline)]
        exact ih first (some token) fun held same => Option.some.inj same ▸ newline
      · rw [Rewriter.run_accepted _ (rewriter_other newline),
          Rewriter.run_accepted _ (rewriter_other newline), ← kept_kept]
        generalize passed : (if drops kinds inner first token then none else held) = kept
        have shape : (if drops kinds inner first token then [] else held.toList) = kept.toList := by
          rw [← passed]
          split <;> rfl
        have isNewline : ∀ newline, kept = some newline → newline.kind = kinds.newline := by
          intro handed same
          rw [← passed] at same
          split at same
          · cases same
          · exact newlines handed same
        rw [shape, run_kept isNewline newline, ih false none of_none]

end Collapsed

/-- **Collapsing twice is collapsing once.** Over every source whose newlines are told from the end
of input by their kind, two filters in a row answer each pop as one filter does that trims the ends
if one of the two does. A filter around one that does the same therefore changes nothing. -/
theorem answers_collapsed_collapsed {σ : Type} [TokenSource σ] (source : σ)
    (noEof : (reserved source).newline ≠ (reserved source).eof) (inner outer : Bool) (count : Nat) :
    answers (Collapsed.of (Collapsed.of source inner) outer) count =
        answers (Collapsed.of source (inner || outer)) count ∧
      answers (Collapsed.of (Collapsed.of source inner) inner) count =
        answers (Collapsed.of source inner) count := by
  have together : ∀ outer : Bool,
      answers (Collapsed.of (Collapsed.of source inner) outer) count =
        answers (Collapsed.of source (inner || outer)) count := by
    intro outer
    have twice := (Collapsed.renders (Collapsed.of source inner) outer noEof).comp
      (Rewriter.extends_run _ _) (Collapsed.renders source inner noEof)
    have once := Collapsed.renders source (inner || outer) noEof
    refine twice.agree once ?_ ?_ ?_ count
    · exact (Rewriter.extends_run _ _).comp (Rewriter.extends_run _ _)
    · exact Rewriter.extends_run _ _
    · intro list
      have same : (Collapsed.rewriter (reserved source) outer).run (.ok {})
          ((Collapsed.rewriter (reserved source) inner).run (.ok {}) list) =
          (Collapsed.rewriter (reserved source) (inner || outer)).run (.ok {}) list :=
        Collapsed.run_run true none of_none list
      exact .inl (same ▸ List.prefix_refl _)
  refine ⟨together outer, ?_⟩
  rw [together inner, Bool.or_self]

/-- A list with newlines at its start, between two words, before an end of input that is followed by
more, before a deindent and before a failure. -/
def doubledReplay : Replay :=
  ⟨[.ok ⟨"NEWLINE", [], 1, 1⟩, .ok ⟨"NEWLINE", [], 2, 1⟩, .ok ⟨"WORD", ['a'], 2, 1⟩,
    .ok ⟨"NEWLINE", [], 3, 1⟩, .ok ⟨"NEWLINE", [], 4, 1⟩, .ok ⟨"WORD", ['b'], 4, 1⟩,
    .ok ⟨"NEWLINE", [], 5, 1⟩, .ok ⟨"EOF", ['$'], 5, 1⟩, .ok ⟨"NEWLINE", [], 6, 1⟩,
    .ok ⟨"DEINDENT", [], 7, 1⟩, .ok ⟨"NEWLINE", [], 8, 1⟩, .error .malformedText,
    .ok ⟨"WORD", ['c'], 9, 1⟩], 0⟩

/-- The hypothesis holds for a list on which an outer filter that trims does more than the inner
one, which does not. -/
theorem answers_collapsed_doubledReplay :
    (reserved doubledReplay).newline ≠ (reserved doubledReplay).eof ∧
      answers (Collapsed.of (Collapsed.of doubledReplay false) true) 12 =
          answers (Collapsed.of doubledReplay true) 12 ∧
        answers (Collapsed.of (Collapsed.of doubledReplay false) false) 12 =
          answers (Collapsed.of doubledReplay false) 12 := by
  have noEof : (reserved doubledReplay).newline ≠ (reserved doubledReplay).eof := by decide
  exact ⟨noEof, answers_collapsed_collapsed doubledReplay noEof false true 12⟩

end Offside
