import Refit.Batch
import Refit.Matcher
import Refit.Rule.Spec

namespace Refit

def Pipeline.ofSpecs (language : Language) (specs : List RuleSpec) : Except Failure Pipeline :=
  (specs.mapM (RuleSpec.build language)).map fun rules => { rules, guard := some language }

structure Migration where
  name : Text
  description : Text
  matcher : Matcher
  language : Language
  specs : List RuleSpec
  deriving Repr, DecidableEq

namespace Migration

def pipeline (m : Migration) : Except Failure Pipeline := Pipeline.ofSpecs m.language m.specs

def batch (m : Migration) (dryRun : Bool) : Except Failure Batch :=
  m.pipeline.map fun pipeline => { pipeline, dryRun }

def serializers : List String := ["serialize", "serializeDeweyID", "computeHash"]

def deserializers : List String := ["deserialize", "deserializeDeweyID"]

def chronicleType : String := "Bytes<ByteBuffer>"

def chronicleSpecs : List RuleSpec :=
  let signature (type method : String) : RuleSpec :=
    .retypeSignature method.toList chronicleType.toList type.toList
  serializers.map (signature "BytesOut<?>") ++ deserializers.map (signature "BytesIn<?>") ++
    [.ensureImport "BytesOut".toList "import io.sirix.node.BytesOut;".toList none,
     .ensureImport "BytesIn".toList "import io.sirix.node.BytesIn;".toList none,
     .removeUnusedImport "import net.openhft.chronicle.bytes.Bytes;".toList "Bytes".toList]

def chronicleBytes : Migration where
  name := "chronicle-bytes".toList
  description :=
    "Replace Chronicle Bytes<ByteBuffer> parameters with BytesOut<?>/BytesIn<?>".toList
  matcher :=
    { extensions := Language.java.extensions.map String.toList
      excluded := ["**/.git/**".toList, "**/build/**".toList, "**/target/**".toList] }
  language := .java
  specs := chronicleSpecs

def builtins : List Migration := [chronicleBytes]

end Migration

end Refit
