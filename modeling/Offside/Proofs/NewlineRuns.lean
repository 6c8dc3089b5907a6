/-
**Runs of newlines.**

What collapsing newlines means for a list of results: every longest run of newlines is replaced, and
everything else stays as it is. `collapseRuns` says this without a memory. It cuts the list at its
runs and looks at the result behind each of them. A run at the end of a finite list is left open,
since it is not known what follows it.

* `run_newlines`: a run of newlines only changes which newline the machine holds back;
* `map_run_eq_collapseRuns`: the machine replaces runs, by induction on the runs;
* `results_collapsed`: popping the filter returns what becomes of the results of its source.
-/

import Mathlib.Data.List.TakeWhile
import Offside.Proofs.Collapsing
import Offside.Source.Replay

namespace Offside

open TokenSource

/-- Whether a result is a newline. -/
def isNewline (kinds : ReservedKinds) : Except Failure Token → Bool
  | .ok token => token.kind == kinds.newline
  | .error _ => false

/-- What a run of newlines becomes in front of a token: its last newline, or nothing. -/
def replaceRun (kinds : ReservedKinds) (trim start : Bool) (run : List (Except Failure Token))
    (next : Token) : List (Except Failure Token) :=
  if next.kind = kinds.indent ∨ next.kind = kinds.deindent then []
  else if trim = true ∧ (start = true ∨ next.kind = kinds.eof) then []
  else run.getLast?.toList

/-- A list of results with its runs of newlines replaced, up to the first failure, which is
repeated. The flag `start` says whether the list is the start of the stream. -/
def collapseRuns (kinds : ReservedKinds) (trim start : Bool) (list : List (Except Failure Token)) :
    List (Except Failure Token) :=
  match _behind : list.dropWhile (isNewline kinds) with
  | [] => []
  | .error failure :: rest => List.replicate (rest.length + 1) (.error failure)
  | .ok token :: rest =>
    replaceRun kinds trim start (list.takeWhile (isNewline kinds)) token ++
      .ok token :: collapseRuns kinds trim false rest
termination_by list.length
decreasing_by
  have shorter := List.length_dropWhile_le (isNewline kinds) list
  rw [_behind, List.length_cons] at shorter
  exact shorter

namespace Collapsed

variable (kinds : ReservedKinds) (trim : Bool)

/-- Of a run of newlines the machine keeps the last one in mind. -/
theorem run_newlines (start : Bool) (held : Option Token) {front : List Answer}
    (newlines : ∀ answer ∈ front, isNewline kinds answer.result = true) (rest : List Answer) :
    ∃ last : Option Token,
      (rewriter kinds trim).run (.ok ⟨start, held⟩) (front ++ rest) =
        (rewriter kinds trim).run (.ok ⟨start, last⟩) rest ∧
      last.map Except.ok = (front.map (·.result)).getLast?.or (held.map Except.ok) := by
  induction front generalizing held with
  | nil => exact ⟨held, rfl, rfl⟩
  | cons first front ih =>
    obtain ⟨result, view⟩ := first
    have here := newlines _ List.mem_cons_self
    cases result with
    | error failure => cases here
    | ok token =>
      have newline : token.kind = kinds.newline := beq_iff_eq.mp here
      obtain ⟨last, same, isLast⟩ := ih (some token) fun answer member =>
        newlines answer (List.mem_cons_of_mem _ member)
      refine ⟨last, ?_, ?_⟩
      · rw [List.cons_append, Rewriter.run_accepted _ (rewriter_newline newline), ← same]
        rfl
      · rw [isLast, List.map_cons, List.getLast?_cons]
        cases (front.map (·.result)).getLast? <;> rfl

/-- The newline that the machine lets through is the one that replaces the run. -/
theorem map_kept_eq_replaceRun (start : Bool) {last : Option Token}
    {run : List (Except Failure Token)} (isLast : last.map Except.ok = run.getLast?)
    (next : Token) :
    (if drops kinds trim start next then [] else last.toList).map Except.ok =
      replaceRun kinds trim start run next := by
  unfold drops replaceRun
  rw [← isLast]
  by_cases indentation : next.kind = kinds.indent ∨ next.kind = kinds.deindent
  · rw [if_pos indentation, if_pos (by simpa [or_assoc] using Or.inr indentation)]
    rfl
  · rw [if_neg indentation]
    obtain ⟨noIndent, noDeindent⟩ := not_or.mp indentation
    by_cases trimmed : trim = true ∧ (start = true ∨ next.kind = kinds.eof)
    · rw [if_pos trimmed, if_pos (by simpa [noIndent, noDeindent] using trimmed)]
      rfl
    · rw [if_neg trimmed, if_neg (by simpa [noIndent, noDeindent] using trimmed)]
      cases last <;> rfl

/-- A list of answers is cut where its results are: at the end of the run at its start. -/
theorem exists_run (list : List Answer) :
    ∃ front back : List Answer, list = front ++ back ∧
      front.map (·.result) = (list.map (·.result)).takeWhile (isNewline kinds) ∧
      back.map (·.result) = (list.map (·.result)).dropWhile (isNewline kinds) ∧
      ∀ answer ∈ front, isNewline kinds answer.result = true := by
  obtain ⟨front, back, cut, isFront, isBack⟩ :=
    List.map_eq_append_iff.mp (List.takeWhile_append_dropWhile (p := isNewline kinds)
      (l := list.map (·.result))).symm
  refine ⟨front, back, cut, isFront, isBack, fun answer member => ?_⟩
  have inRun : answer.result ∈ (list.map (·.result)).takeWhile (isNewline kinds) :=
    isFront ▸ List.mem_map_of_mem member
  exact List.mem_takeWhile_imp inRun

/-- What is behind a run of newlines is no newline. -/
theorem not_newline_of_behind {kinds : ReservedKinds} {list rest : List (Except Failure Token)}
    {token : Token} (behind : list.dropWhile (isNewline kinds) = .ok token :: rest) :
    token.kind ≠ kinds.newline := by
  have stops := List.head?_dropWhile_not (isNewline kinds) list
  rw [behind] at stops
  exact ne_of_beq_false stops

/-- **The machine replaces runs of newlines.** -/
theorem map_run_eq_collapseRuns (start : Bool) (list : List Answer) :
    ((rewriter kinds trim).run (.ok ⟨start, none⟩) list).map (·.result) =
      collapseRuns kinds trim start (list.map (·.result)) := by
  obtain ⟨front, back, cut, isFront, isBack, newlines⟩ := exists_run kinds list
  obtain ⟨last, onward, isLast⟩ := run_newlines kinds trim start none newlines back
  rw [← cut] at onward
  rw [onward, collapseRuns]
  split
  · rename_i behind
    rw [behind, List.map_eq_nil_iff] at isBack
    rw [isBack]
    rfl
  · rename_i failure rest behind
    rw [behind] at isBack
    obtain ⟨⟨result, view⟩, more, rfl, rfl, rfl⟩ := List.map_eq_cons_iff.mp isBack
    rw [Rewriter.run_error, List.map_replicate, List.length_map]
  · rename_i token rest behind
    rw [behind] at isBack
    obtain ⟨⟨result, view⟩, more, rfl, rfl, rfl⟩ := List.map_eq_cons_iff.mp isBack
    have kept := map_kept_eq_replaceRun kinds trim start (isLast.trans Option.or_none) token
    rw [isFront] at kept
    rw [Rewriter.run_accepted _ (rewriter_other (not_newline_of_behind behind)), List.map_append,
      map_run_eq_collapseRuns false more, ← kept]
    simp only [List.map_append, List.map_map]
    rw [List.append_assoc]
    rfl
termination_by list.length
decreasing_by
  rw [cut, List.length_append, List.length_cons]
  omega

end Collapsed

/-- **Collapsing newlines replaces the runs of newlines of a source.** However often the filter is
popped, it returns what becomes of the results of its source, once enough of them are known. -/
theorem results_collapsed {σ : Type} [TokenSource σ] (source : σ) (trim : Bool)
    (noEof : (reserved source).newline ≠ (reserved source).eof) (count : Nat) :
    ∃ enough, ∀ more, enough ≤ more →
      results (Collapsed.of source trim) count =
        (collapseRuns (reserved source) trim true (results source more)).take count := by
  obtain ⟨enough, start⟩ :=
    (Collapsed.renders source trim noEof).eventually (Rewriter.extends_run _ _) count
  refine ⟨enough, fun more le => ?_⟩
  have begins : results (Collapsed.of source trim) count <+:
      collapseRuns (reserved source) trim true (results source more) := by
    rw [results, results, ← Collapsed.map_run_eq_collapseRuns]
    exact (start more le).map _
  have length : (results (Collapsed.of source trim) count).length = count := by
    rw [results, List.length_map, length_answers]
  rw [List.prefix_iff_eq_take, length] at begins
  exact begins

/-- A list with runs of newlines at its start, before an end of input that is not the last item,
between two words, before an indent and before a failure. -/
def spacedReplay : Replay :=
  ⟨[.ok ⟨"NEWLINE", [], 1, 1⟩, .ok ⟨"NEWLINE", [], 2, 1⟩, .ok ⟨"WORD", ['a'], 2, 1⟩,
    .ok ⟨"NEWLINE", [], 3, 1⟩, .ok ⟨"EOF", ['$'], 3, 1⟩, .ok ⟨"NEWLINE", [], 4, 1⟩,
    .ok ⟨"NEWLINE", [], 5, 1⟩, .ok ⟨"WORD", ['b'], 5, 1⟩, .ok ⟨"NEWLINE", [], 6, 1⟩,
    .ok ⟨"INDENT", [' '], 7, 1⟩, .ok ⟨"NEWLINE", [], 8, 1⟩, .error .malformedText,
    .ok ⟨"WORD", ['c'], 9, 1⟩], 0⟩

/-- The newlines of a list are told from its end of input. -/
theorem results_collapsed_spacedReplay :
    (reserved spacedReplay).newline ≠ (reserved spacedReplay).eof ∧
      ∃ enough, ∀ more, enough ≤ more →
        results (Collapsed.of spacedReplay true) 9 =
          (collapseRuns (reserved spacedReplay) true true (results spacedReplay more)).take 9 := by
  have noEof : (reserved spacedReplay).newline ≠ (reserved spacedReplay).eof := by decide
  exact ⟨noEof, results_collapsed spacedReplay true noEof 9⟩

example :
    results
      (Collapsed.of (.ofKinds ["NEWLINE", "A", "NEWLINE", "NEWLINE", "B", "NEWLINE", "INDENT"])
        true : Collapsed Replay) 5 =
      [.ok ⟨"A", [], 2, 1⟩, .ok ⟨"NEWLINE", [], 4, 1⟩, .ok ⟨"B", [], 5, 1⟩,
        .ok ⟨"INDENT", [], 7, 1⟩, .ok ⟨"EOF", ['$'], 8, 1⟩] := by
  cbv

end Offside
