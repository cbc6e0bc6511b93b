import OverlayStore.Catalogue

/-!
# Scripted sources

A source that always offers the same and keeps a log of what it is told, and a type of sources that
are either shelves or scripted.
-/

namespace OverlayStore

/-- A source that always offers the same. -/
structure ScriptedSource where
  /-- What the source offers. -/
  items : Option (List (Option Publication))
  /-- The receipts that the source was told of, and `none` for every change of the node's contact,
  in order. -/
  log : List (Option (Publication × Receipt)) := []

instance : Source ScriptedSource where
  offer source := source.items
  noteReceipt publication receipt source :=
    { source with log := source.log ++ [some (publication, receipt)] }
  noteContactChange source := { source with log := source.log ++ [none] }

/-- Sources of two kinds. -/
instance {α β : Type} [Source α] [Source β] : Source (α ⊕ β) where
  offer
    | .inl a => Source.offer a
    | .inr b => Source.offer b
  noteReceipt publication receipt
    | .inl a => .inl (Source.noteReceipt publication receipt a)
    | .inr b => .inr (Source.noteReceipt publication receipt b)
  noteContactChange
    | .inl a => .inl (Source.noteContactChange a)
    | .inr b => .inr (Source.noteContactChange b)

end OverlayStore
