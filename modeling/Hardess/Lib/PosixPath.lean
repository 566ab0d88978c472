import Hardess.Lib.JsString

/-!
# POSIX paths

An absolute path is the list of its names. `join base s` walks from `base` along the
text `s`, the way `path.join` and `path.resolve` do: an empty segment and `.` stay,
`..` goes up, and `..` at the root stays there.

* `Relative` says where a text leads whatever the base is: some steps up, then names
  down (`join_eq`);
* `below_join_iff` tells from it when the walk ends at or below its base.
-/

namespace Posix

/-- An absolute path: the names on the way from the root. -/
abbrev Path := List JsString

/-- One segment of a text, read at a path. -/
def push (p : Path) (segment : JsString) : Path :=
  if segment = [] ∨ segment = js "." then p
  else if segment = js ".." then p.dropLast
  else p ++ [segment]

/-- The segments of a text. -/
def segments (s : JsString) : List JsString := s.splitOn (unit '/')

/-- The path that a text leads to from a base. -/
def join (base : Path) (s : JsString) : Path := (segments s).foldl push base

/-- The path of a text in a working directory: an absolute text starts at the root. -/
def resolve (cwd : Path) (s : JsString) : Path :=
  if s.head? = some (unit '/') then join [] s else join cwd s

/-- The text of a path. -/
def toText (p : Path) : JsString :=
  if p = [] then js "/" else p.flatMap fun name => unit '/' :: name

/-- `path.dirname`, which cuts the text and does not look at `..`. -/
def dirname (s : JsString) : JsString :=
  -- what stands before the last name, the slash included, read backwards
  let before := (s.reverse.dropWhile (· = unit '/')).dropWhile (· ≠ unit '/')
  if before.length ≤ 1 then if s.head? = some (unit '/') then js "/" else js "."
  else before.tail.reverse

/-- A relative path: the steps up, then the names down. -/
structure Relative where
  ups : ℕ
  names : Path
deriving DecidableEq, Repr

namespace Relative

/-- The text that leads nowhere. -/
def here : Relative := ⟨0, []⟩

/-- One more segment: `..` cancels a name, or is one more step up. -/
def push (r : Relative) (segment : JsString) : Relative :=
  if segment = [] ∨ segment = js "." then r
  else if segment = js ".." then
    if r.names = [] then ⟨r.ups + 1, []⟩ else ⟨r.ups, r.names.dropLast⟩
  else ⟨r.ups, r.names ++ [segment]⟩

/-- The relative path of a text. -/
def ofText (s : JsString) : Relative := (segments s).foldl push here

/-- The path it leads to. -/
def reached (base : Path) (r : Relative) : Path := base.take (base.length - r.ups) ++ r.names

/-- Does it end at or below its base? The names down must first take back what the
steps up left. -/
def Stays (base : Path) (r : Relative) : Prop := base.drop (base.length - r.ups) <+: r.names

instance (base : Path) (r : Relative) : Decidable (Stays base r) :=
  inferInstanceAs (Decidable (_ <+: _))

@[simp] theorem reached_here (base : Path) : reached base here = base := by
  simp [reached, here]

/-- Walking a segment further is pushing it. -/
theorem push_reached (base : Path) (r : Relative) (segment : JsString) :
    Posix.push (reached base r) segment = reached base (r.push segment) := by
  unfold Posix.push push
  split_ifs with hstay hup hnames
  · rfl
  · simp only [reached, hnames, List.append_nil, List.dropLast_eq_take, List.take_take,
      List.length_take]
    congr 1
    omega
  · simp only [reached, List.dropLast_append_of_ne_nil hnames]
  · simp only [reached, List.append_assoc]

theorem stays_of_ups_eq_zero {base : Path} {r : Relative} (h : r.ups = 0) : r.Stays base := by
  simp [Stays, h]

/-- **At or below the base** is a question about the relative path alone. -/
theorem stays_iff {base : Path} {r : Relative} : r.Stays base ↔ base <+: r.reached base := by
  conv_rhs => lhs; rw [← List.take_append_drop (base.length - r.ups) base]
  exact (List.prefix_append_right_inj _).symm

end Relative

/-- **Where a text leads** from a base: up, then down. -/
theorem join_eq (base : Path) (s : JsString) : join base s = (Relative.ofText s).reached base := by
  -- the walk from any point on the way, by the segments that are left
  have walk : ∀ (segs : List JsString) (r : Relative),
      segs.foldl push (r.reached base) = (segs.foldl Relative.push r).reached base := by
    intro segs
    induction segs with
    | nil => intro r; rfl
    | cons segment segs ih =>
      intro r
      rw [List.foldl_cons, List.foldl_cons, Relative.push_reached, ih]
  have := walk (segments s) Relative.here
  rwa [Relative.reached_here] at this

/-- A text leads to a place at or below its base exactly when it does not climb out. -/
theorem below_join_iff {base : Path} {s : JsString} :
    base <+: join base s ↔ (Relative.ofText s).Stays base := by
  rw [join_eq, Relative.stays_iff]

/-- A text without a slash is one segment. -/
theorem segments_of_notMem {s : JsString} (h : unit '/' ∉ s) : segments s = [s] :=
  List.splitOn_eq_singleton h

/-- A name leads one step down. -/
theorem join_name (base : Path) {s : JsString} (hslash : unit '/' ∉ s) (hne : s ≠ [])
    (hdot : s ≠ js ".") (hdots : s ≠ js "..") : join base s = base ++ [s] := by
  rw [join, segments_of_notMem hslash, List.foldl_cons, List.foldl_nil, push, if_neg (by tauto),
    if_neg hdots]

@[simp] theorem join_dot (base : Path) : join base (js ".") = base := by
  rw [join, segments_of_notMem (by decide)]
  simp [push]

@[simp] theorem join_dots (base : Path) : join base (js "..") = base.dropLast := by
  rw [join, segments_of_notMem (by decide)]
  simp [push]

example : dirname (js "/srv/a.ts") = js "/srv" ∧ dirname (js "a.ts") = js "." := by decide

example : join [js "srv", js "artifacts"] (js "../a/./b//c/..") = [js "srv", js "a", js "b"] := by
  decide

end Posix
