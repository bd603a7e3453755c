import Interpolation.Text.Basic

set_option autoImplicit false

namespace Interpolation

open Text

inductive Marker where
  | single
  | doubled
deriving DecidableEq, Repr

namespace Marker

def opening : Marker → Text
  | .single => ['$', '{']
  | .doubled => ['$', '{', '{']

def closing : Marker → Text
  | .single => ['}']
  | .doubled => ['}', '}']

def ofText (t : Text) : Marker := if startsWith doubled.opening t then .doubled else .single

-- The text around references without the marks that enclose them. Between a mark and its reference more text may
-- stand, as in the call of a function: before the first reference the last opening mark goes, and after the last one
-- the last closing mark. Between two references the first closing mark belongs to the left one and the last opening
-- mark to the right one.
def withoutOpening (marker : Marker) (t : Text) : Text := eraseLast marker.opening t

def withoutClosing (marker : Marker) (t : Text) : Text := eraseLast marker.closing t

def withoutBoth (marker : Marker) (t : Text) : Text := marker.withoutOpening (eraseFirst marker.closing t)

end Marker

def isInterpolated (t : Text) : Bool := startsWith Marker.single.opening t

-- The text inside the outer marks. In front the bytes of the opening mark go, at the end as many characters as the
-- closing mark has, whatever these are.
def enclosed (t : Text) : Text :=
  let marker := Marker.ofText t
  between (bytes marker.opening) (bytes (dropEnd marker.closing.length t)) t

end Interpolation
