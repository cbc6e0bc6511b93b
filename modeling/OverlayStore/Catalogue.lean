import OverlayStore.Publication

/-!
# The catalogue of publications

The sources of what a node publishes, one registered for each value type at most. Publishing takes
a snapshot of all that the registered sources offer, in the order of their registration, and hands
each receipt to the source in charge of the value's type. A source may be registered for several
types, and it can be used while it is registered for none.

`snapshotM` and `noteContactChangeM` go through the registered sources by their numbers, whatever
asking and telling them does. `snapshot` and `noteContactChange` do this for the sources that the
catalogue holds.
-/

namespace OverlayStore

/-- What the catalogue asks of a source with states of type `σ`. -/
class Source (σ : Type) where
  /-- What to publish now: nothing at all, or a list in which a gap ends the source's part. -/
  offer : σ → Option (List (Option Publication))
  /-- A publication of the source was stored. -/
  noteReceipt : Publication → Receipt → σ → σ
  /-- The node's identity or address changed. -/
  noteContactChange : σ → σ

/-- A source that offers what has been put on it. -/
structure Shelf where
  /-- What is on the shelf, in the order in which it came. -/
  publications : List Publication := []
  /-- The last receipt for each key. -/
  receipts : Table Key Receipt := .empty
  /-- How often the node's identity or address has changed. -/
  contactChanges : Nat := 0

namespace Shelf

/-- Put a publication on the shelf. -/
def add (shelf : Shelf) (publication : Publication) : Shelf :=
  { shelf with publications := shelf.publications ++ [publication] }

/-- Take all publications of a key off the shelf, and answer how many there were. -/
def remove (shelf : Shelf) (key : Key) : Nat × Shelf :=
  let rest := shelf.publications.filter fun publication => publication.key ≠ key
  (shelf.publications.length - rest.length, { shelf with publications := rest })

/-- Take everything off the shelf. The receipts stay. -/
def clear (shelf : Shelf) : Shelf :=
  { shelf with publications := [] }

end Shelf

instance : Source Shelf where
  offer shelf := some (shelf.publications.map some)
  noteReceipt publication receipt shelf :=
    { shelf with receipts := shelf.receipts.insert publication.key receipt }
  noteContactChange shelf := { shelf with contactChanges := shelf.contactChanges + 1 }

/-- The sources of a node and the types they are registered for. -/
structure Catalogue (σ : Type) where
  /-- The sources, by number. -/
  sources : List σ := []
  /-- The number of the source in charge of each type code, the latest registration last. -/
  entries : Table UInt32 Nat := .empty

namespace Catalogue

variable {σ : Type}

/-- Bring in a source, not yet registered, and answer its number. -/
def addSource (catalogue : Catalogue σ) (source : σ) : Nat × Catalogue σ :=
  (catalogue.sources.length, { catalogue with sources := catalogue.sources ++ [source] })

/-- The source with a number. -/
def source? (catalogue : Catalogue σ) (number : Nat) : Option σ :=
  catalogue.sources[number]?

/-- Change the source with a number. -/
def modifySource (catalogue : Catalogue σ) (number : Nat) (change : σ → σ) : Catalogue σ :=
  { catalogue with sources := catalogue.sources.modify number change }

/-- Register a source for a type; the flag tells whether it replaced another one. The type moves to
the end of the order. The wildcard type takes no source. -/
def register (catalogue : Catalogue σ) (type : ValueType) (number : Nat) :
    Except Error (Bool × Catalogue σ) :=
  if type.isAny then .error (.precondition "cannot register a storable model for the ANY type")
  else .ok (catalogue.entries.contains type.code,
    { catalogue with entries := catalogue.entries.insertLast type.code number })

/-- Take away the source of a type; the flag tells whether there was one. -/
def unregister (catalogue : Catalogue σ) (type : ValueType) : Bool × Catalogue σ :=
  (catalogue.entries.contains type.code,
    { catalogue with entries := catalogue.entries.erase type.code })

/-- There is a source registered for a type. -/
def contains (catalogue : Catalogue σ) (type : ValueType) : Bool :=
  catalogue.entries.contains type.code

/-- The number of registered types. -/
def size (catalogue : Catalogue σ) : Nat := catalogue.entries.size

/-- The items before the first gap. -/
def beforeGap {α : Type} : List (Option α) → List α
  | some a :: rest => a :: beforeGap rest
  | _ => []

/-- What a source contributes to a snapshot by what it offers. -/
def part : Option (List (Option Publication)) → List Publication
  | some items => beforeGap items
  | none => []

/-- All that the registered sources offer when they are asked one after the other. -/
def snapshotM {m : Type → Type} [Monad m] (catalogue : Catalogue σ)
    (ask : Nat → m (Option (List (Option Publication)))) : m (List Publication) :=
  catalogue.entries.values.foldlM (fun collected number => do
    let offered ← ask number
    return collected ++ part offered) []

/-- Tell the source of every registered type, in order, that the node's contact changed. -/
def noteContactChangeM {m : Type → Type} [Monad m] (catalogue : Catalogue σ)
    (tell : Nat → m Unit) : m Unit :=
  catalogue.entries.values.forM tell

variable [Source σ]

/-- What one source contributes to a snapshot. -/
def contribution (source : σ) : List Publication :=
  part (Source.offer source)

/-- All that the registered sources offer now. -/
def snapshot (catalogue : Catalogue σ) : List Publication :=
  catalogue.snapshotM (m := Id) fun number => (catalogue.source? number).bind Source.offer

/-- A snapshot is made of the contributions of the registered sources. -/
theorem snapshot_eq (catalogue : Catalogue σ) :
    catalogue.snapshot = catalogue.entries.values.flatMap fun number =>
      ((catalogue.source? number).map contribution).getD [] := by
  have hcollect : ∀ (numbers : List Nat) (collected : List Publication),
      numbers.foldlM (m := Id) (fun collected number => do
        let offered ← pure ((catalogue.source? number).bind Source.offer)
        return collected ++ part offered) collected =
      collected ++ numbers.flatMap fun number =>
        ((catalogue.source? number).map contribution).getD [] := by
    intro numbers
    induction numbers with
    | nil => exact fun collected => (List.append_nil collected).symm
    | cons number numbers ih =>
      intro collected
      rw [List.foldlM_cons, List.flatMap_cons, ← List.append_assoc]
      refine (ih _).trans ?_
      cases hsource : catalogue.source? number <;> rfl
  exact hcollect _ []

/-- Hand a receipt to the source registered for the type of the publication's value, if any. -/
def noteReceipt (catalogue : Catalogue σ) (publication : Publication) (receipt : Receipt) :
    Catalogue σ :=
  match catalogue.entries.find? publication.value.type.code with
  | some number => catalogue.modifySource number (Source.noteReceipt publication receipt)
  | none => catalogue

/-- Change the sources of all registered types, in order, as the change of the node's contact asks
for. -/
def noteContactChange (catalogue : Catalogue σ) : Catalogue σ :=
  (StateT.run (m := Id) (catalogue.noteContactChangeM fun number =>
    modify fun catalogue => catalogue.modifySource number Source.noteContactChange) catalogue).2

end Catalogue

end OverlayStore
