import Rehearsal.Text.Bytes

/-!
# Archives

A script file bundles a script with the files it starts from. It is plain text: a comment, which is the
script, then for each file a marker line and its contents.

    the script
    -- path/one.txt --
    contents of path/one.txt

A marker line begins with two dashes and a space and ends with a space and two dashes; the name between is
trimmed and may not be blank. `Archive.parse` looks for one marker line after the other, and only where a newline stands in
front of the opening of one; `Archive.render` writes an archive back, giving a final newline to every section that lacks
one.

What this does not decide: a section that itself holds a marker line reads back as two. `Archive.Quoting`
says which contents are safe and makes the others so.
-/

namespace Rehearsal

/-- One file of an archive. -/
structure Archive.File where
  name : String
  data : Bytes
  deriving DecidableEq, Repr, Inhabited

/-- An archive: the comment in front of the first marker, and the files in their order. -/
structure Archive where
  comment : Bytes
  files : List Archive.File
  deriving DecidableEq, Repr, Inhabited

namespace Archive

/-- The archive that holds nothing. -/
def empty : Archive := ⟨[], []⟩

/-- How a marker line begins. -/
def opening : Bytes := Bytes.ascii "-- "

/-- How a marker line ends. -/
def closing : Bytes := Bytes.ascii " --"

/-- The trimmed middle of a line that has the shape of a marker, whether or not it names a file. Carriage
returns at the end of the line do not count. -/
def markerMiddle? (line : Bytes) : Option Bytes :=
  let line := Bytes.trimRight Bytes.carriageReturn line
  if opening.isPrefixOf line && closing.isSuffixOf line && opening.length + closing.length ≤ line.length then
    some (Bytes.trim ((line.drop opening.length).take (line.length - opening.length - closing.length)))
  else none

/-- The file name that a line marks, or nothing when it is no marker. A marker whose name is not UTF-8 is a
fault of the archive. -/
def markerName? (line : Bytes) : Except Utf8.DecodeError (Option String) :=
  match markerMiddle? line with
  | none => .ok none
  | some middle =>
    match Utf8.decode middle with
    | .error e => .error e
    | .ok name => .ok (if name.isEmpty then none else some name)

/-- A section with a final newline, unless it is empty. -/
def fixNewline (d : Bytes) : Bytes := if d.isEmpty || Bytes.endsInNewline d then d else d ++ [Bytes.newline]

/-- The name in the marker line that a byte string begins with, and what stands behind that line; nothing when its first
line is no marker. -/
def leadingMarker? (d : Bytes) : Except Utf8.DecodeError (Option (String × Bytes)) :=
  match markerName? (d.takeWhile (· != Bytes.newline)) with
  | .error e => .error e
  | .ok none => .ok none
  | .ok (some name) => .ok (some (name, (d.dropWhile (· != Bytes.newline)).drop 1))

/-- Cuts a byte string behind its first newline that the opening of a marker line follows. -/
def nextOpening? : Bytes → Option (Bytes × Bytes)
  | [] => none
  | b :: rest =>
    if b == Bytes.newline && opening.isPrefixOf rest then some ([b], rest)
    else match nextOpening? rest with
      | none => none
      | some (front, back) => some (b :: front, back)

/-- The part behind the cut is shorter, so that a search from there on ends. -/
theorem length_of_nextOpening? {d front back : Bytes} (h : nextOpening? d = some (front, back)) :
    back.length < d.length := by
  induction d generalizing front with
  | nil => cases h
  | cons b rest ih =>
    rw [nextOpening?] at h
    split at h
    · cases h
      exact Nat.lt_succ_self _
    · split at h
      next => cases h
      next front back hrest =>
        cases h
        exact Nat.lt_succ_of_lt (ih hrest)

/-- Looks for the first marker line, from one opening of such a line to the next. The result is what stands in front of it,
and its name with what stands behind it. Where there is no marker line, all is in front, with a final newline. -/
def findMarker (d : Bytes) : Except Utf8.DecodeError (Bytes × Option (String × Bytes)) :=
  match leadingMarker? d with
  | .error e => .error e
  | .ok (some found) => .ok ([], some found)
  | .ok none =>
    match _h : nextOpening? d with
    | none => .ok (fixNewline d, none)
    | some (front, back) =>
      match findMarker back with
      | .error e => .error e
      | .ok (before, found) => .ok (front ++ before, found)
termination_by d.length
decreasing_by exact length_of_nextOpening? _h

theorem length_of_leadingMarker? {d after : Bytes} {name : String} (h : leadingMarker? d = .ok (some (name, after))) :
    after.length < d.length := by
  cases d with
  | nil => cases h
  | cons b rest =>
    rw [leadingMarker?] at h
    split at h
    · cases h
    · cases h
    · cases h
      have hdrop := ((b :: rest).dropWhile_sublist (· != Bytes.newline)).length_le
      rw [List.length_drop]
      rw [List.length_cons] at hdrop ⊢
      omega

/-- What stands behind a marker line is shorter, so that the reading of an archive ends. -/
theorem length_of_findMarker {d before after : Bytes} {name : String}
    (h : findMarker d = .ok (before, some (name, after))) : after.length < d.length := by
  fun_induction findMarker d generalizing before with
  | case1 => cases h
  | case2 d found hfound =>
    cases h
    exact length_of_leadingMarker? hfound
  | case3 => cases h
  | case4 => cases h
  | case5 d _ front back hnext before' found hback ih =>
    cases h
    exact Nat.lt_trans (ih hback) (length_of_nextOpening? hnext)

/-- Reads an archive. Everything before the first marker line is the comment, and everything between a marker line and the
next is the file that it names. The first marker whose name is not UTF-8 ends the reading. -/
def parse (d : Bytes) : Except Utf8.DecodeError Archive :=
  match _h : findMarker d with
  | .error e => .error e
  | .ok (before, none) => .ok ⟨before, []⟩
  | .ok (before, some (name, after)) =>
    match parse after with
    | .error e => .error e
    | .ok tail => .ok ⟨before, ⟨name, tail.comment⟩ :: tail.files⟩
termination_by d.length
decreasing_by exact length_of_findMarker _h

/-- The marker line of a file. -/
def markerLine (name : String) : Bytes := opening ++ Utf8.encode name ++ closing ++ [Bytes.newline]

/-- Writes an archive: the comment, then each file behind its marker line, every section with a final newline. -/
def render (a : Archive) : Bytes :=
  fixNewline a.comment ++ a.files.flatMap fun f => markerLine f.name ++ fixNewline f.data

end Archive

end Rehearsal
