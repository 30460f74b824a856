import Switchboard.Signature
import Switchboard.Workbench.Samples

/-!
# Sample type names

Types that the workbench knows by name alone: they can stand in a signature, but no value of them
travels. `typeInfo?` finds these and the message types by their keys.
-/

namespace Switchboard.Workbench

/-- The keys and full names of the types that are known by name alone. -/
def namedTypes : List (String × String) := [
  ("Context", "birpc_context::context::Context"),
  ("ClientConnector", "birpc::client::ClientConnector"),
  ("MethodResult",
    "core::result::Result<(), alloc::boxed::Box<dyn core::error::Error + " ++
      "core::marker::Send + core::marker::Sync>>"),
  ("ResString", "core::result::Result<(), alloc::string::String>"),
  ("ResI64",
    "core::result::Result<i64, alloc::boxed::Box<dyn core::error::Error + " ++
      "core::marker::Send + core::marker::Sync>>"),
  ("RefContext", "&birpc_context::context::Context"),
  ("BoxContext", "alloc::boxed::Box<birpc_context::context::Context>"),
  ("str", "str"),
  ("RefStr", "&str"),
  ("SliceU8", "[u8]"),
  ("SliceHidden", "[driver::kit::hidden]"),
  ("ArrHidden", "[driver::kit::hidden; 2]"),
  ("TupleHidden", "(u8, driver::kit::hidden)"),
  ("BoxHidden", "alloc::boxed::Box<driver::kit::hidden>"),
  ("ArcHidden", "alloc::sync::Arc<driver::kit::hidden>"),
  ("RcHidden", "alloc::rc::Rc<driver::kit::hidden>"),
  ("RefHidden", "&driver::kit::hidden"),
  ("RefMutHidden", "&mut driver::kit::hidden"),
  ("BoxOptHidden", "alloc::boxed::Box<core::option::Option<driver::kit::hidden>>"),
  ("OptBoxRefHidden", "core::option::Option<alloc::boxed::Box<&driver::kit::hidden>>"),
  ("RefRefMutHidden", "&&mut driver::kit::hidden"),
  ("BoxPair", "alloc::boxed::Box<driver::kit::Pair>"),
  ("OptPair", "core::option::Option<driver::kit::Pair>"),
  ("ArcArcPair", "alloc::sync::Arc<alloc::sync::Arc<driver::kit::Pair>>"),
  ("BoxVecHidden", "alloc::boxed::Box<alloc::vec::Vec<driver::kit::hidden>>"),
  ("BoxTupleHidden", "alloc::boxed::Box<(driver::kit::hidden, u8)>"),
  ("BoxWrapHidden", "alloc::boxed::Box<driver::kit::Wrapper<driver::kit::hidden>>"),
  ("WrapBoxHidden", "driver::kit::Wrapper<alloc::boxed::Box<driver::kit::hidden>>"),
  ("BoxDyn", "alloc::boxed::Box<dyn driver::kit::Trait>"),
  ("DynTrait", "dyn driver::kit::Trait"),
  ("RefDyn", "&dyn driver::kit::Trait"),
  ("BoxDynSend", "alloc::boxed::Box<dyn driver::kit::Trait + core::marker::Send>"),
  ("BoxSliceHidden", "alloc::boxed::Box<[driver::kit::hidden]>"),
  ("RefSliceHidden", "&[driver::kit::hidden]"),
  ("BoxStr", "alloc::boxed::Box<str>"),
  ("ConstPtrHidden", "*const driver::kit::hidden"),
  ("MutPtrHidden", "*mut driver::kit::hidden"),
  ("BoxPtrHidden", "alloc::boxed::Box<*const driver::kit::hidden>"),
  ("FnPtr", "fn(u8) -> u8"),
  ("FnPtrHidden", "fn(driver::kit::hidden)"),
  ("FnPtrRet", "fn(u8) -> driver::kit::hidden"),
  ("FnPtrPair", "fn() -> driver::kit::Pair"),
  ("UnsafeFnPtr", "unsafe fn(u8)"),
  ("ExternFnPtr", "extern \"C\" fn(driver::kit::hidden)"),
  ("StdMutexHidden", "std::sync::poison::mutex::Mutex<driver::kit::hidden>"),
  ("PlMutexHidden",
    "lock_api::mutex::Mutex<parking_lot::raw_mutex::RawMutex, driver::kit::hidden>"),
  ("WeakHidden", "alloc::sync::Weak<driver::kit::hidden>"),
  ("CellHidden", "core::cell::Cell<driver::kit::hidden>"),
  ("CowStr", "alloc::borrow::Cow<'_, str>"),
  ("Path", "std::path::Path"),
  ("Duration", "core::time::Duration"),
  ("JsonValue", "serde_json::value::Value"),
  ("BoxJson", "alloc::boxed::Box<serde_json::value::Value>"),
  ("Inner", "driver::kit::deep::er::Inner"),
  ("inner", "driver::kit::deep::er::inner"),
  ("BoxInner", "alloc::boxed::Box<driver::kit::deep::er::Inner>"),
  ("OptInnerLower", "core::option::Option<driver::kit::deep::er::inner>"),
  ("_Under", "driver::kit::_Under"),
  ("eclair", "driver::kit::éclair"),
  ("Elan", "driver::kit::Élan2"),
  ("Dzip", "driver::kit::ǅip"),
  ("Roman", "driver::kit::Ⅷth"),
  ("Han", "driver::kit::数据"),
  ("BoxElan", "alloc::boxed::Box<driver::kit::Élan2>"),
  ("Projected", "[driver::kit::hidden; 0]"),
  ("Never", "core::convert::Infallible"),
  ("f64", "f64"),
  ("usize", "usize"),
  ("u128", "u128"),
  ("FnLocal", "driver::kit::fn_local_named::Local"),
  ("fn_local", "driver::kit::fn_local_named::local"),
  ("closure", "driver::kit::named_type::\x7b\x7bclosure\x7d\x7d"),
  ("fn_item", "driver::kit::info_of_val<u8>"),
  ("ImplLocal", "driver::kit::InImpl::local::ImplLocal"),
  ("trait_local", "<driver::kit::InImpl as driver::kit::Maker>::made::trait_local")]

/-- The full name of the type of a key. -/
def typeName? (key : String) : Option String :=
  match messageType? key with
  | some t => some t.typeName
  | none => namedTypes.lookup key

/-- A parameter of a signature by its key: a star in front makes it a pointer, and `Self` is the
type that lists the method. -/
def parameter? (owner key : String) : Option TypeInfo :=
  let (isPointer, key) :=
    match key.toList with
    | '*' :: rest => (true, String.ofList rest)
    | _ => (false, key)
  let name? := if key = "Self" then some owner else typeName? key
  name?.map fun name => if isPointer then .pointer name else .value name

end Switchboard.Workbench
