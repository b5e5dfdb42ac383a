import LoaderGen.Ascending
import LoaderGen.GoType.Basic
import LoaderGen.Options.Engine

/-!
# Imports of a file

The imports that a generated file collects. A path is imported once, under the local name
with which it was first asked for.
-/

namespace LoaderGen

/-- The imports asked for, in the order of their paths and no path twice. -/
structure ImportSet where
  imports : List Import
  sorted : IsAscending Import.path imports
  deriving DecidableEq, Repr

namespace ImportSet

instance : EmptyCollection ImportSet := ⟨⟨[], .nil⟩⟩

def find? (set : ImportSet) (path : String) : Option Import :=
  set.imports.find? (·.path == path)

/-- The set with one more import, unless its path is there. -/
def push (set : ImportSet) (imp : Import) : ImportSet :=
  if (set.find? imp.path).isSome then set
  else ⟨insertAscending Import.path imp set.imports, set.sorted.insert⟩

def add (set : ImportSet) (path : String) : ImportSet := set.push { path := path }

def addAliased (set : ImportSet) (path name : String) : ImportSet :=
  set.push { path := path, localName := some name }

/-- The set with an import that may be missing. -/
def addImport (set : ImportSet) (imp : Option Import) : ImportSet :=
  match imp with
  | some imp => set.push imp
  | none => set

/-- The set with the package that declares the driver's error of a missing row. -/
def addDriver (set : ImportSet) (driver : Driver) : ImportSet := set.add driver.importPath

/-- The imports of the standard library, then the others, each by path. -/
def toList (set : ImportSet) : List Import :=
  set.imports.filter Import.isStandard ++ set.imports.filter (! Import.isStandard ·)

end ImportSet

/-- The packages that loaders are written with. -/
def contextPath : String := "context"

def dataloaderPath : String := "github.com/graph-gophers/dataloader/v7"

def timePath : String := "time"

/-- The package of bounded caches, and the name that it is imported under. -/
def cachePath : String := "github.com/debugger84/sqlc-dataloader/cache"

def cacheAlias : String := "loaderCache"

end LoaderGen
