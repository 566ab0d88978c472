import Hardess.Lib.JsString
import Hardess.Lib.Regex

/-!
# The source text of a regular expression

The patterns of ECMAScript are read unit by unit, with the items before each open group on a stack.
Of the language of patterns only anchors, units, classes without ranges and escapes, escapes of
syntax characters, capturing groups, and `+` after a unit or a class are read: `Regex.ofSource` has
no value for a pattern that has anything else in it.

* `Reading.step`: what a unit does to a reading;
* `read_append`: a pattern that is put together is read part by part; `read_unit`, `read_escape`,
  `read_captured`: some parts.
-/

namespace Regex

/-- `SyntaxCharacter`. -/
def syntaxCharacters : JsString := js "^$\\.*+?()[]\x7b\x7d|"

/-- What the next unit belongs to. -/
inductive ReadingMode
  | plain
  /-- After a backslash. -/
  | escape
  /-- After `[`. -/
  | classStart
  | classBody (set : SymbolSet UInt16)
  deriving DecidableEq

/-- A pattern that has been read up to some place. -/
structure Reading where
  mode : ReadingMode := .plain
  /-- The items before each group that is open, the innermost one first. -/
  enclosing : List (List (Regex UInt16)) := []
  items : List (Regex UInt16) := []
  deriving DecidableEq

namespace Reading

variable (r : Reading)

/-- An item has been read. -/
def push (item : Regex UInt16) : Reading := { r with mode := .plain, items := r.items ++ [item] }

/-- `)`. -/
def close : Option Reading :=
  match r.enclosing with
  | [] => none
  | outer :: enclosing => some { r with enclosing, items := outer ++ [.group (concat r.items)] }

/-- `+`. -/
def repeatLast : Option Reading :=
  match r.items.getLast? with
  | some (.one set) => some { r with items := r.items.dropLast ++ [.many set] }
  | _ => none

/-- A unit in a class. -/
def classUnit (set : SymbolSet UInt16) (u : UInt16) : Option Reading :=
  if u = unit ']' then some (r.push (.one set))
  else if u = unit '\\' ∨ u = unit '-' then none
  else some { r with mode := .classBody { set with symbols := set.symbols ++ [u] } }

/-- The next unit. -/
def step (r : Reading) (u : UInt16) : Option Reading :=
  match r.mode with
  | .plain =>
    if u = unit '^' then some (r.push .start)
    else if u = unit '$' then some (r.push .finish)
    else if u = unit '\\' then some { r with mode := .escape }
    else if u = unit '(' then some { r with enclosing := r.items :: r.enclosing, items := [] }
    else if u = unit ')' then r.close
    else if u = unit '[' then some { r with mode := .classStart }
    else if u = unit '+' then r.repeatLast
    else if u ∈ syntaxCharacters then none
    else some (r.push (.one (.single u)))
  | .escape =>
    if u ∈ syntaxCharacters ∨ u = unit '/' then some (r.push (.one (.single u))) else none
  | .classStart =>
    if u = unit '^' then some { r with mode := .classBody ⟨true, []⟩ }
    else r.classUnit ⟨false, []⟩ u
  | .classBody set => r.classUnit set u

/-- The units of a text, one after the other. -/
def read (r : Reading) (text : JsString) : Option Reading := text.foldlM step r

end Reading

/-- The pattern of a source text. -/
def ofSource (source : JsString) : Option (Regex UInt16) :=
  match Reading.read {} source with
  | some ⟨.plain, [], items⟩ => some (concat items)
  | _ => none

namespace Reading

variable {r r' : Reading}

theorem read_append {text text' : JsString} (h : r.read text = some r') :
    r.read (text ++ text') = r'.read text' := by
  unfold read at h ⊢
  rw [List.foldlM_append, h]
  rfl

variable {enclosing : List (List (Regex UInt16))} {items : List (Regex UInt16)}

/-- A unit that is not a syntax character stands for itself. -/
theorem read_unit {u : UInt16} (hu : u ∉ syntaxCharacters) :
    read ⟨.plain, enclosing, items⟩ [u] =
      some ⟨.plain, enclosing, items ++ [.one (.single u)]⟩ := by
  have hne (c : Char) (hc : unit c ∈ syntaxCharacters) : u ≠ unit c := by
    rintro rfl
    exact hu hc
  show step ⟨.plain, enclosing, items⟩ u >>= pure = _
  simp only [step, hne '^' (by decide), hne '$' (by decide), hne '\\' (by decide),
    hne '(' (by decide), hne ')' (by decide), hne '[' (by decide), hne '+' (by decide), hu,
    if_false]
  rfl

/-- A syntax character after a backslash stands for itself. -/
theorem read_escape {u : UInt16} (hu : u ∈ syntaxCharacters ∨ u = unit '/') :
    read ⟨.plain, enclosing, items⟩ [unit '\\', u] =
      some ⟨.plain, enclosing, items ++ [.one (.single u)]⟩ := by
  have hback : step ⟨.plain, enclosing, items⟩ (unit '\\') =
      some ⟨.escape, enclosing, items⟩ := rfl
  show step ⟨.plain, enclosing, items⟩ (unit '\\') >>= (fun r => step r u >>= pure) = _
  rw [hback]
  show step ⟨.escape, enclosing, items⟩ u >>= pure = _
  rw [step, if_pos hu]
  rfl

/-- `([^/]+)`. -/
theorem read_captured : read ⟨.plain, enclosing, items⟩ (js "([^/]+)") =
    some ⟨.plain, enclosing, items ++ [.group (concat [.many (.but (unit '/'))])]⟩ := rfl

end Reading

end Regex
