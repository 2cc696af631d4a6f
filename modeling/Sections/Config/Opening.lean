import Sections.Config.Basic
import Sections.Store.Folder

/-!
# Opening the configured store
-/

namespace Sections

inductive OpenStore where
  | folder (guard : RootGuard)
  | memory
  deriving DecidableEq, Repr

def Config.openStore (config : Config) : StoreM Disk OpenStore :=
  match config.store.kind with
  | .file => return .folder (← Folder.openAt config.store.folder)
  | .memory => return .memory

end Sections
