import Mathlib.Data.List.TakeWhile
import Mathlib.Tactic

/-!
# Backtracking regular expressions

A regular expression is tried at one place after the other, and gives its matches in the order in
which a backtracking matcher comes upon them; a repetition takes as many symbols as it can first.

* `Regex.all`: the matches at a place, the preferred ones first;
* `Regex.exec`: what the groups capture in the first match;
* `all_one_cons`, `all_literal`, `all_group_many`: how a symbol, a text and a captured repetition
  match before what follows them;
* `exec_start`: what is anchored is only tried at the start.
-/

/-- The symbols of a list, or all others. -/
structure SymbolSet (α : Type*) where
  negated : Bool
  symbols : List α
  deriving DecidableEq

namespace SymbolSet

variable {α : Type*} [DecidableEq α]

/-- Is the symbol in the set? -/
def has (set : SymbolSet α) (a : α) : Bool := decide (a ∈ set.symbols) != set.negated

/-- One symbol. -/
def single (a : α) : SymbolSet α := ⟨false, [a]⟩

/-- Every symbol but one. -/
def but (a : α) : SymbolSet α := ⟨true, [a]⟩

@[simp] theorem has_single (a b : α) : (single a).has b = decide (b = a) := by
  simp [has, single]

@[simp] theorem has_but (a b : α) : (but a).has b = decide (b ≠ a) := by
  simp [has, but]

end SymbolSet

/-- The regular expressions. -/
inductive Regex (α : Type*)
  | empty
  /-- `^`. -/
  | start
  /-- `$`. -/
  | finish
  | one (set : SymbolSet α)
  /-- One symbol or more, as many as there are. -/
  | many (set : SymbolSet α)
  | seq (r s : Regex α)
  /-- A group that captures. -/
  | group (r : Regex α)
  deriving DecidableEq

namespace Regex

variable {α : Type*}

/-- A match: the text that it takes, the text that follows, and what the groups have captured. -/
structure Match (α : Type*) where
  taken : List α
  rest : List α
  captures : List (List α) := []
  deriving DecidableEq

/-- A match that follows some text with its captures. -/
def Match.after (taken : List α) (captures : List (List α)) (m : Match α) : Match α :=
  ⟨taken ++ m.taken, m.rest, captures ++ m.captures⟩

/-- The regular expressions of a list, one after the other. -/
def concat (rs : List (Regex α)) : Regex α := rs.foldr seq empty

variable [DecidableEq α]

/-- The matches at the start of a text, the preferred ones first; the flag says that nothing
precedes the text. -/
def all : Regex α → Bool → List α → List (Match α)
  | empty, _, text => [⟨[], text, []⟩]
  | start, atStart, text => if atStart then [⟨[], text, []⟩] else []
  | finish, _, text => if text = [] then [⟨[], [], []⟩] else []
  | one set, _, text =>
    match text with
    | [] => []
    | a :: rest => if set.has a then [⟨[a], rest, []⟩] else []
  | many set, _, text =>
    let run := text.takeWhile set.has
    (List.range run.length).map fun k =>
      ⟨run.take (run.length - k), text.drop (run.length - k), []⟩
  | seq r s, atStart, text =>
    (r.all atStart text).flatMap fun m =>
      (s.all (atStart && m.taken.isEmpty) m.rest).map (.after m.taken m.captures)
  | group r, atStart, text =>
    (r.all atStart text).map fun m => { m with captures := m.taken :: m.captures }

/-- What the groups capture in the first match, which is looked for from the start on. -/
def exec (r : Regex α) (text : List α) : Option (List (List α)) :=
  (r.all true text ++ text.tails.tail.flatMap (r.all false)).head?.map Match.captures

variable {atStart : Bool} {a : α} {text : List α} {rs : List (Regex α)}

omit [DecidableEq α] in
theorem after_nil : Match.after ([] : List α) [] = id := rfl

omit [DecidableEq α] in
theorem after_after (taken taken' : List α) (captures captures' : List (List α)) (m : Match α) :
    Match.after taken captures (Match.after taken' captures' m) =
      Match.after (taken ++ taken') (captures ++ captures') m := by
  simp [Match.after]

/-- A symbol, and what follows it. -/
theorem all_one_cons : (concat (one (.single a) :: rs)).all atStart text =
    if text.head? = some a then ((concat rs).all false text.tail).map (.after [a] []) else [] := by
  show (seq (one (.single a)) (concat rs)).all atStart text = _
  rw [all]
  cases text with
  | nil => simp [all]
  | cons b text =>
    by_cases hb : b = a
    · subst hb
      simp [all]
    · simp [all, hb]

/-- A text, and what follows it. -/
theorem all_literal (literal : List α) :
    (concat (literal.map (fun a => one (.single a)) ++ rs)).all atStart text =
      if literal <+: text then
        ((concat rs).all (atStart && literal.isEmpty) (text.drop literal.length)).map
          (.after literal [])
      else [] := by
  induction literal generalizing atStart text with
  | nil => simp [after_nil]
  | cons a literal ih =>
    rw [List.map_cons, List.cons_append, all_one_cons]
    cases text with
    | nil => simp
    | cons b text =>
      by_cases hb : b = a
      · subst hb
        rw [List.head?_cons, if_pos rfl, List.tail_cons, ih]
        by_cases hl : literal <+: text
        · rw [if_pos hl, if_pos ((List.prefix_cons_inj b).2 hl), List.map_map, Bool.false_and,
            List.isEmpty_cons, Bool.and_false, List.length_cons, List.drop_succ_cons]
          refine List.map_congr_left fun m _ => ?_
          exact after_after [b] literal [] [] m
        · rw [if_neg hl, if_neg fun h => hl ((List.prefix_cons_inj b).1 h), List.map_nil]
      · have hne : ¬(a :: literal) <+: (b :: text) := by
          simp [List.cons_prefix_cons, Ne.symm hb]
        simp [hb, hne]

omit [DecidableEq α] in
/-- Before the end of a run of symbols stands one of them. -/
theorem drop_of_lt_takeWhile {p : α → Bool} {j : ℕ} (hj : j < (text.takeWhile p).length) :
    ∃ a rest, p a = true ∧ text.drop j = a :: rest := by
  have hrun := List.takeWhile_prefix (l := text) p
  have hlt : j < text.length := hj.trans_le hrun.length_le
  refine ⟨text[j], text.drop (j + 1), ?_, List.drop_eq_getElem_cons hlt⟩
  rw [← hrun.getElem hj]
  exact List.mem_takeWhile_imp (List.getElem_mem hj)

/-- A captured repetition before something that no symbol of it can start: only the whole run is
followed by a match. -/
theorem all_group_many {set : SymbolSet α}
    (h : ∀ atStart a rest, set.has a = true → (concat rs).all atStart (a :: rest) = []) :
    (concat (group (concat [many set]) :: rs)).all atStart text =
      if text.takeWhile set.has = [] then []
      else ((concat rs).all false (text.drop (text.takeWhile set.has).length)).map
        (.after (text.takeWhile set.has) [text.takeWhile set.has]) := by
  -- the matches after the first `j` symbols of the run
  obtain ⟨after, hafter⟩ : ∃ after : ℕ → List (Match α), ∀ j, after j =
      ((concat rs).all (atStart && ((text.takeWhile set.has).take j).isEmpty) (text.drop j)).map
        (.after ((text.takeWhile set.has).take j) [(text.takeWhile set.has).take j]) :=
    ⟨_, fun _ => rfl⟩
  have hall : (concat (group (concat [many set]) :: rs)).all atStart text =
      (List.range (text.takeWhile set.has).length).flatMap fun k =>
        after ((text.takeWhile set.has).length - k) := by
    show (seq (group (seq (many set) empty)) (concat rs)).all atStart text = _
    simp [all, List.flatMap_map, List.flatMap_assoc, hafter, Match.after]
  have hnone : ∀ j < (text.takeWhile set.has).length, after j = [] := by
    intro j hj
    obtain ⟨a, rest, ha, hdrop⟩ := drop_of_lt_takeWhile hj
    rw [hafter, hdrop, h _ a rest ha, List.map_nil]
  rw [hall]
  split_ifs with hrun
  · rw [hrun]
    rfl
  · obtain ⟨n, hn⟩ := Nat.exists_eq_succ_of_ne_zero (mt List.length_eq_zero_iff.1 hrun)
    have hrest : (List.range n).flatMap (fun k => after (n.succ - k.succ)) = [] := by
      rw [List.flatMap_eq_nil_iff]
      intro k hk
      have hlt := List.mem_range.1 hk
      exact hnone _ (by omega)
    have hwhole : (text.takeWhile set.has).isEmpty = false := by
      simpa using hrun
    rw [hn, List.range_succ_eq_map, List.flatMap_cons, List.flatMap_map, hrest, List.append_nil,
      Nat.sub_zero, ← hn, hafter, List.take_length, hwhole, Bool.and_false]

/-- What is anchored at the start is tried nowhere else. -/
theorem exec_start (rs : List (Regex α)) (text : List α) :
    (concat (start :: rs)).exec text = ((concat rs).all true text).head?.map Match.captures := by
  have hlater : (seq start (concat rs)).all false = fun _ => [] := rfl
  have hstart : (seq start (concat rs)).all true text = (concat rs).all true text := by
    simp [all, after_nil]
  have hnone : text.tails.tail.flatMap (fun _ => ([] : List (Match α))) = [] := by
    simp [List.flatMap_eq_nil_iff]
  show (seq start (concat rs)).exec text = _
  rw [exec, hstart, hlater, hnone, List.append_nil]

/-- The end of the text. -/
theorem all_finish : (concat [finish]).all atStart text =
    if text = [] then [⟨[], [], []⟩] else [] := by
  show (seq finish empty).all atStart text = _
  cases text <;> rfl

end Regex
