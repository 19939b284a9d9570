/-
Typed items over a store of bytes.

A store holds bytes under string keys.  An item keeps the values of one type under
one key, printed when they are saved and read when they are loaded, so a load can
fail in two ways: nothing is there, or what is there does not read.

A store of typed cells is pictured by such a store when every cell is kept by an
item and every item reads what it prints.  Loading and saving the cell and the item
then relate, so that whatever is built from these operations does too.
-/
import Mathlib.Logic.Function.Basic
import IcaController.Lib.Protobuf
import IcaController.Lib.Relational

/-- A store of bytes under string keys. -/
abbrev KeyValue := String → Option Bytes

def KeyValue.empty : KeyValue := fun _ => none

/-- The values of one type, kept under one key as bytes. -/
structure CodedItem (ε α : Type) where
  key : String
  typeName : String
  encode : α → Bytes
  decode : Bytes → Except ε α

namespace CodedItem

open Exec

variable {σ ε α : Type}

/-- The values as a cell of the store. -/
def toItem (c : CodedItem ε α) : Item KeyValue ε α where
  typeName := c.typeName
  read store :=
    match store c.key with
    | some bytes => (c.decode bytes).map some
    | none => .ok none
  write a store := Function.update store c.key (some (c.encode a))

/-! ### Pictures of typed cells

A store of typed cells shows as a store of bytes, each cell under its key.  An item that
keeps its cell in that picture may be worked on in either store: what is loaded and saved
is the same.
-/

/-- The item keeps a cell: it reads what it prints, and the store shows the cell's value printed. -/
structure Keeps (c : CodedItem ε α) (picture : σ → KeyValue) (i : Item σ ε α) : Prop where
  typeName : i.typeName = c.typeName
  decode : ∀ a, c.decode (c.encode a) = .ok a
  read : ∀ s, ∃ o, i.read s = .ok o ∧ picture s c.key = o.map c.encode
  write : ∀ a s, i.read (i.write a s) = .ok (some a)
  others : ∀ a s key, key ≠ c.key → picture (i.write a s) key = picture s key

variable {c : CodedItem ε α} {picture : σ → KeyValue} {i : Item σ ε α}

/-- The cell and the item that keeps it read the same. -/
theorem Keeps.read_eq (h : c.Keeps picture i) (s : σ) : c.toItem.read (picture s) = i.read s := by
  obtain ⟨o, hr, hpicture⟩ := h.read s
  simp only [toItem, hpicture, hr]
  cases o with
  | none => rfl
  | some a =>
      simp only [Option.map_some, h.decode a]
      rfl

/-- They write the same. -/
theorem Keeps.write_eq (h : c.Keeps picture i) (a : α) (s : σ) :
    c.toItem.write a (picture s) = picture (i.write a s) := by
  funext key
  by_cases hkey : key = c.key
  · obtain ⟨o, hr, hpicture⟩ := h.read (i.write a s)
    rw [h.write a s, Except.ok.injEq] at hr
    subst hr
    rw [hkey, hpicture]
    exact Function.update_self _ _ _
  · rw [h.others a s key hkey]
    exact Function.update_of_ne hkey _ _

variable [NotFound ε]

theorem Keeps.find_eq (h : c.Keeps picture i) (s : σ) : c.toItem.find (picture s) = i.find s := by
  rw [Item.find, Item.find, h.read_eq s, h.typeName]
  rfl

theorem Keeps.load (h : c.Keeps picture i) :
    Relates (fun s t => t = picture s) Eq i.load c.toItem.load := by
  refine Relates.get.bind ?_
  rintro s _ rfl
  rw [h.find_eq s]
  exact .liftSame

omit [NotFound ε] in
theorem Keeps.mayLoad (h : c.Keeps picture i) :
    Relates (fun s t => t = picture s) Eq i.mayLoad c.toItem.mayLoad := by
  refine Item.relates_mayLoad ?_
  rintro s _ rfl
  exact (h.read_eq s).symm

omit [NotFound ε] in
theorem Keeps.save (h : c.Keeps picture i) (a : α) :
    Relates (fun s t => t = picture s) Eq (i.save a) (c.toItem.save a) := by
  refine Item.relates_save ?_
  rintro s _ rfl
  exact h.write_eq a s

end CodedItem
