import LoaderGen.Number.Shortest
import LoaderGen.Plan.Basic
import LoaderGen.Value.Basic

/-!
# Plans as structured values

The data of templates as records, their fields in a fixed order. A time to live is a number of
seconds.
-/

namespace LoaderGen

open Value

def Import.toValue (imp : Import) : Value :=
  .record [("path", text imp.path), ("alias", imp.localName.elim null text)]

def CachePolicy.toValue : CachePolicy → Value
  | noCache => .record [("type", text "no_cache")]
  | unboundedMemory => .record [("type", text "unbounded_memory")]
  | boundedLru size ttl =>
    .record [("type", text "bounded_lru"), ("size", int size), ("ttl", real ttl.seconds.toText)]

def LoaderData.toValue (data : LoaderData) : Value :=
  .record [
    ("package", text data.package), ("loader_name", text data.loaderName),
    ("loader_var", text data.loaderVar), ("struct_type", text data.structType),
    ("table", text data.table), ("columns", list (data.columns.map text)),
    ("primary_key", .record [
      ("column_name", text data.primaryKey.columnName),
      ("field_name", text data.primaryKey.fieldName),
      ("field_type", text data.primaryKey.fieldType)]),
    ("cache", data.cache.toValue), ("imports", list (data.imports.map Import.toValue))]

def FactoryEntry.toValue (entry : FactoryEntry) : Value :=
  .record [("loader_name", text entry.loaderName), ("loader_var", text entry.loaderVar),
    ("struct_type", text entry.structType)]

def FactoryData.toValue (data : FactoryData) : Value :=
  .record [
    ("package", text data.package), ("model_package", text data.modelPackage),
    ("loaders", list (data.loaders.map FactoryEntry.toValue)),
    ("imports", list (data.imports.map Import.toValue))]

end LoaderGen
