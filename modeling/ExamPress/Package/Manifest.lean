import ExamPress.Package.Archive
import ExamPress.Xml

/-! # Manifests

The two parts that every package has: the types of its parts, and the way from the package to its
main part. -/

namespace ExamPress.Package

/-- A part with an XML root. -/
def Part.ofXml (name : String) (root : Xml) : Part :=
  .ofText name (declaration ++ root.write .unicode)

/-- The part that names the types of the others. -/
def typesPart (types : List (String × String)) : Part :=
  .ofXml "[Content_Types].xml" (.element "Types"
    [("xmlns", "http://schemas.openxmlformats.org/package/2006/content-types".toText)]
    (.element "Default" [("Extension", "rels".toText),
        ("ContentType", "application/vnd.openxmlformats-package.relationships+xml".toText)] [] ::
      types.map fun (name, type) =>
        .element "Override" [("PartName", name.toText), ("ContentType", type.toText)] []))

/-- The part that names the targets of another one, with their kinds. -/
def relationsPart (name : String) (relations : List (String × String)) : Part :=
  .ofXml name (.element "Relationships"
    [("xmlns", "http://schemas.openxmlformats.org/package/2006/relationships".toText)]
    (relations.zipIdx.map fun ((kind, target), i) =>
      .element "Relationship"
        [("Id", "rId".toText ++ Text.ofNat (i + 1)),
          ("Type", "http://schemas.openxmlformats.org/officeDocument/2006/relationships/".toText ++
            kind.toText),
          ("Target", target.toText)] []))

end ExamPress.Package
