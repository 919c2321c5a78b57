/-!
# Paths

Paths are texts divided by `/`. Joining a path to a directory keeps an absolute path as it is;
otherwise it adds one `/` unless the directory is empty or already ends in one. Joining the
empty path adds that `/` alone, so `join "/bin" ""` is `/bin/`.
-/

namespace JobControl.Path

/-- A path that starts at the root. -/
def isAbsolute (p : String) : Bool :=
  p.toList.head? = some '/'

/-- `p` taken relative to `dir`, unless `p` is absolute. -/
def join (dir p : String) : String :=
  if isAbsolute p then p
  else if dir.isEmpty || dir.toList.getLast? = some '/' then dir ++ p
  else dir ++ "/" ++ p

example : join "/bin" "sh" = "/bin/sh" ∧ join "/usr/bin/" "sh" = "/usr/bin/sh" ∧
    join "/bin" "/etc" = "/etc" ∧ join "" "sh" = "sh" ∧ join "/bin" "" = "/bin/" := by
  decide +kernel

end JobControl.Path
