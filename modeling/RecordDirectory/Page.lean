import RecordDirectory.Power

/-!
Pages: windows into an ordered list of results.
-/

namespace RecordDirectory

/-- The order of results. -/
inductive SortOrder where
  /-- The oldest first. -/
  | ascending
  /-- The newest first. -/
  | descending
deriving DecidableEq, Inhabited

/-- A window: so many results are skipped and at most so many returned. -/
structure PageRequest where
  offset : Nat
  limit : Nat
  sort : SortOrder
deriving DecidableEq, Inhabited

/-- The results in a window, with the number of results on all pages. -/
structure Page (α : Type) where
  items : List α
  offset : Nat
  limit : Nat
  total : Nat
deriving DecidableEq, Inhabited

namespace Page

variable {α : Type}

def finish (page : Page α) : Nat :=
  page.offset + page.items.length

/-- Whether results follow this page; nothing where the position behind it is beyond 64 bits. -/
def hasMore? (page : Page α) : Option Bool :=
  if page.finish < unsignedBound then some (decide (page.finish < page.total)) else none

end Page

end RecordDirectory
