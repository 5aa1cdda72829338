import WifiDirect.Settings.Line

/-!
# Assignments

What a settings file assigns to its keys. A value may stand on one line with its key. A table of one
blank member may also stand on a line for that member, with a dot between the keys, or as lines of
its own behind a header.
-/

namespace WifiDirect.Settings

/-- A key and the value assigned to it. -/
structure Assignment where
  key : Key
  value : Value
  deriving DecidableEq, Repr

/-- The assignment of a table in lines of its own, the last of a file. The header of its member may
stand for the member, and for the table as well; both headers may stand in either order. Tables of
another form, or more than one, are not read: no settings take them. -/
def tableAssignment? : List Line → Option Assignment
  | [.header [key], .assignment [member] .blank] => some ⟨key, .member member⟩
  | [.header [key, member]] => some ⟨key, .member member⟩
  | [.header [key], .header [key', member]] =>
    if key' = key then some ⟨key, .member member⟩ else none
  | [.header [key, member], .header [key']] =>
    if key' = key then some ⟨key, .member member⟩ else none
  | _ => none

/-- The assignments of lines, in their order. -/
def lineAssignments? : List Line → Option (List Assignment)
  | [] => some []
  | .assignment [key] value :: lines => (lineAssignments? lines).map (⟨key, value⟩ :: ·)
  | .assignment [key, member] .blank :: lines =>
    (lineAssignments? lines).map (⟨key, .member member⟩ :: ·)
  | lines => (tableAssignment? lines).map ([·])

/-- **The assignments of a file.** -/
def assignments? (cs : List Char) : Option (List Assignment) :=
  (lines? cs).bind lineAssignments?

end WifiDirect.Settings
