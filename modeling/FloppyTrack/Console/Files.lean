import FloppyTrack.Fault

set_option autoImplicit false

namespace FloppyTrack.Console

structure Files (m : Type → Type) where
  read : String → m (Except FileFault (List UInt8))
  write : String → List UInt8 → m (Except FileFault Unit)

end FloppyTrack.Console
