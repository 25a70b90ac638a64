import ShapeDispatch.Kind

/-! What can go wrong with handles. A client may recover from an error; a fault is misuse that it
must not commit. -/

namespace ShapeDispatch

inductive RefError where
  | badCast (origin : Option Kind) (wanted : StaticKind)
  | nullReference (static : StaticKind)
  deriving DecidableEq

namespace RefError

def text : RefError → String
  | badCast none wanted => "BadCast \x7b from: None, to: \"" ++ wanted.name ++ "\" \x7d"
  | badCast (some origin) wanted =>
    "BadCast \x7b from: Some(" ++ origin.name ++ "), to: \"" ++ wanted.name ++ "\" \x7d"
  | nullReference static => "NullReference(\"" ++ static.name ++ "\")"

end RefError

/-- Building with nothing, or going through a handle that cannot be used. -/
inductive Fault where
  | nullChild
  | nullDst
  | nullSrc
  | dereference (error : RefError)
  deriving DecidableEq

namespace Fault

def message : Fault → String
  | nullChild => "Mem built with a null child"
  | nullDst => "Move built with a null dst"
  | nullSrc => "Move built with a null src"
  | dereference error => "dereferenced an invalid reference: " ++ error.text

end Fault

end ShapeDispatch
