import Switchboard.Message.Basic

/-!
# Standard message types

Numbers, characters, texts, sequences, options, triples, arrays and maps as message types. The name
of a composite type is made of the names of its parts.
-/

namespace Switchboard

instance : Message UInt8 := { toWire := inferInstance, typeName := "u8", zero := 0 }
instance : Message Int8 := { toWire := inferInstance, typeName := "i8", zero := 0 }
instance : Message UInt16 := { toWire := inferInstance, typeName := "u16", zero := 0 }
instance : Message UInt32 := { toWire := inferInstance, typeName := "u32", zero := 0 }
instance : Message Int32 := { toWire := inferInstance, typeName := "i32", zero := 0 }
instance : Message UInt64 := { toWire := inferInstance, typeName := "u64", zero := 0 }
instance : Message Int64 := { toWire := inferInstance, typeName := "i64", zero := 0 }
instance : Message Char := { toWire := inferInstance, typeName := "char", zero := '\x00' }
instance : Message String :=
  { toWire := inferInstance, typeName := "alloc::string::String", zero := "" }

instance {α : Type} [Message α] : Message (List α) where
  toWire := inferInstance
  typeName := "alloc::vec::Vec<" ++ Message.typeName α ++ ">"
  zero := []

instance {α : Type} [Message α] : Message (Option α) where
  toWire := inferInstance
  typeName := "core::option::Option<" ++ Message.typeName α ++ ">"
  zero := none

instance {α β γ : Type} [Message α] [Message β] [Message γ] : Message (α × β × γ) where
  toWire := inferInstance
  typeName :=
    "(" ++ Message.typeName α ++ ", " ++ Message.typeName β ++ ", " ++ Message.typeName γ ++ ")"
  zero := (Message.zero, Message.zero, Message.zero)

instance {α : Type} [Message α] {n : Nat} : Message (Vector α n) where
  toWire := inferInstance
  typeName := "[" ++ Message.typeName α ++ "; " ++ toString n ++ "]"
  zero := Vector.replicate n Message.zero

instance {κ ν : Type} [Key κ] [Message κ] [Message ν] : Message (KeyMap κ ν) where
  toWire := inferInstance
  typeName :=
    "alloc::collections::btree::map::BTreeMap<" ++ Message.typeName κ ++ ", " ++
      Message.typeName ν ++ ">"
  zero := KeyMap.empty

end Switchboard
