/-!
Patterns pick the nodes whose dispatch is traced: a text to show, and the test it stands for.
-/

namespace TagDispatch

structure Pattern where
  source : String
  accepts : String → Bool

end TagDispatch
