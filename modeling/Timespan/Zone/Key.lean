import Timespan.Text.Basic

/-!
# Keys of zones

Zones are known by keys such as `Asia/Kathmandu`. A key is a relative path into the
directory of all zones, and a path is **refused** in two cases
(`Timespan.Zone.Key.WellFormed`): something would be cut from it when it is resolved –
an empty component, a dot, a way up after a way down – or it leads out of the
directory. The directory has a name of its own, so a path may leave it and come
back by that name.
-/

namespace Timespan.Zone.Key

/-- The components of a path, between its slashes. -/
def components : Text → List Text
  | [] => [[]]
  | c :: rest =>
    if c = '/' then [] :: components rest
    else match components rest with
      | [] => [[c]]
      | first :: others => (c :: first) :: others

/-- One step of a path, where the way so far has its last component first. Empty
components and dots stay where they are; two dots go back over the last component,
but not over two dots. -/
def step (way : List Text) (component : Text) : List Text :=
  if component = [] ∨ component = ".".toList then way
  else if component = "..".toList then
    match way with
    | [] => [component]
    | last :: before => if last = "..".toList then component :: way else before
  else component :: way

/-- The components of a path after all its steps. -/
def resolve (path : List Text) : List Text :=
  (path.foldl step []).reverse

/-- The directory of all zones, by its own name. -/
def directory : Text :=
  "_".toList

/-- Whether a key is a path within the directory of all zones from which nothing
would be cut. -/
def WellFormed (key : Text) : Prop :=
  resolve (components key) = components key ∧
    (resolve (directory :: components key)).head? = some directory ∧
    2 ≤ (resolve (directory :: components key)).length

instance (key : Text) : Decidable (WellFormed key) :=
  inferInstanceAs (Decidable (_ ∧ _ ∧ _))

end Timespan.Zone.Key
