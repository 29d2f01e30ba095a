import ConceptScript.Catalog.Basic

/-!
Contract: the concept types that are known where no catalog is configured.

Owns the built-in types, in their order, and the fact that they agree with each other.

Does not own how a configured catalog replaces them.
-/

set_option autoImplicit false

namespace ConceptScript.Catalog

def builtInTypes : List ConceptType :=
  [ { name := "ModuleInfo"
      keyword := some "Module"
      description := "Groups related data structures under a common name."
      members := [{ name := "Name" }] },
    { name := "EntityInfo"
      keyword := some "Entity"
      description := "A data structure persisted in its own table."
      parents := ["ModuleInfo"]
      members := [{ name := "Name" }] },
    { name := "BrowseDataStructureInfo"
      keyword := some "Browse"
      description := "Read-only projection that takes properties from a source entity."
      parents := ["ModuleInfo"]
      members :=
        [{ name := "Name" },
         { name := "Source"
           kind := .reference
           description := some "Entity the browse reads from." }] },
    { name := "BrowseTakeInfo"
      keyword := some "Take"
      description := "Copies a property from the browse source, keeping its name."
      parents := ["BrowseDataStructureInfo"]
      members := [{ name := "Path", kind := .reference }] },
    { name := "BrowseTakeNamedInfo"
      keyword := some "Take"
      description := "Copies a property from the browse source under a new name."
      parents := ["BrowseDataStructureInfo"]
      members := [{ name := "Name" }, { name := "Path", kind := .reference }] },
    { name := "PropertyInfo"
      description := "Base type of all properties. Not declared directly." },
    { name := "ShortStringPropertyInfo"
      keyword := some "ShortString"
      description := "Text property limited to 256 characters."
      parents := ["EntityInfo"]
      members := [{ name := "Name" }] },
    { name := "LongStringPropertyInfo"
      keyword := some "LongString"
      description := "Unlimited text property."
      parents := ["EntityInfo"]
      members := [{ name := "Name" }] },
    { name := "IntegerPropertyInfo"
      keyword := some "Integer"
      description := "32-bit integer property."
      parents := ["EntityInfo"]
      members := [{ name := "Name" }] },
    { name := "DecimalPropertyInfo"
      keyword := some "Decimal"
      description := "Decimal number property with 10 fraction digits."
      parents := ["EntityInfo"]
      members := [{ name := "Name" }] },
    { name := "MoneyPropertyInfo"
      keyword := some "Money"
      description := "Decimal property rounded to two fraction digits."
      parents := ["EntityInfo"]
      members := [{ name := "Name" }] },
    { name := "BoolPropertyInfo"
      keyword := some "Bool"
      description := "Boolean property."
      parents := ["EntityInfo"]
      members := [{ name := "Name" }] },
    { name := "DatePropertyInfo"
      keyword := some "Date"
      description := "Date property without time of day."
      parents := ["EntityInfo"]
      members := [{ name := "Name" }] },
    { name := "DateTimePropertyInfo"
      keyword := some "DateTime"
      description := "Date and time property."
      parents := ["EntityInfo"]
      members := [{ name := "Name" }] },
    { name := "GuidPropertyInfo"
      keyword := some "Guid"
      description := "Unique identifier property."
      parents := ["EntityInfo"]
      members := [{ name := "Name" }] },
    { name := "ReferencePropertyInfo"
      keyword := some "Reference"
      description := "Foreign key to another entity."
      parents := ["EntityInfo"]
      members :=
        [{ name := "Name" },
         { name := "Target"
           kind := .reference
           description := some "Referenced entity, `Module.Entity`." }] },
    { name := "SimpleReferencePropertyInfo"
      keyword := some "Reference"
      description := "Foreign key to the entity with the same name as the property."
      parents := ["EntityInfo"]
      members := [{ name := "Name" }] },
    { name := "RequiredPropertyInfo"
      keyword := some "Required"
      description := "The property value must be entered."
      parents :=
        ["ShortStringPropertyInfo", "LongStringPropertyInfo", "IntegerPropertyInfo",
         "DecimalPropertyInfo", "MoneyPropertyInfo", "BoolPropertyInfo", "DatePropertyInfo",
         "DateTimePropertyInfo", "GuidPropertyInfo", "ReferencePropertyInfo",
         "SimpleReferencePropertyInfo"] },
    { name := "UniquePropertyInfo"
      keyword := some "Unique"
      description := "No two records may have the same property value."
      parents :=
        ["ShortStringPropertyInfo", "IntegerPropertyInfo", "DateTimePropertyInfo",
         "GuidPropertyInfo", "ReferencePropertyInfo", "SimpleReferencePropertyInfo"] },
    { name := "MaxLengthInfo"
      keyword := some "MaxLength"
      description := "Maximum number of characters allowed in a text property."
      parents := ["ShortStringPropertyInfo", "LongStringPropertyInfo"]
      members := [{ name := "Length" }] },
    { name := "DenyUserEditInfo"
      keyword := some "DenyUserEdit"
      description := "The property can only be changed by server-side code."
      parents :=
        ["ShortStringPropertyInfo", "LongStringPropertyInfo", "IntegerPropertyInfo",
         "DecimalPropertyInfo", "MoneyPropertyInfo", "BoolPropertyInfo", "DatePropertyInfo",
         "DateTimePropertyInfo", "GuidPropertyInfo", "ReferencePropertyInfo",
         "SimpleReferencePropertyInfo"] },
    { name := "DetailInfo"
      keyword := some "Detail"
      description := "The referenced record owns this one; deleting it cascades."
      parents := ["ReferencePropertyInfo", "SimpleReferencePropertyInfo"] },
    { name := "DeactivatableInfo"
      keyword := some "Deactivatable"
      description := "Records are deactivated instead of deleted."
      parents := ["EntityInfo"] },
    { name := "EntityLoggingInfo"
      keyword := some "Logging"
      description := "Every insert, update and delete is written to the audit log."
      parents := ["EntityInfo"] },
    { name := "ItemFilterInfo"
      keyword := some "ItemFilter"
      description := "Named filter expression over the entity's records."
      parents := ["EntityInfo"]
      members :=
        [{ name := "FilterName" },
         { name := "Expression", description := some "Filter expression as a string literal." }] } ]

def builtIn : Catalog :=
  ⟨builtInTypes, by decide +kernel⟩

end ConceptScript.Catalog
