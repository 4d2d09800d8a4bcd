import Exemplar.Source.Java
import Exemplar.Source.Rust

/-!
# Emission

The sources of a whole model, or the reason why there are none.
-/

namespace Exemplar

/-- The files of a model in the target language, in a package or module path. -/
def Model.emit (model : Model) (options : Options) (namespaceText : String) :
    Except Failure (List SourceFile) :=
  match options.target with
  | .java => Source.Java.files model options namespaceText
  | .rust => Source.Rust.files model options namespaceText

end Exemplar
