import MountSweep.Proofs.Documents.Fields
import MountSweep.Proofs.Yaml.Rearranging

namespace MountSweep

open Yaml Time Output

variable {d d' : Document} {n n' : Node}

section

variable (d d')

end

namespace Config

end Config

namespace Config

variable {text : String} {c : Config}

def word (s : String) : Node := .scalar none s.toList .plain

def environment : Node :=
  .mapping none [(word "env", .mapping none [(word "B", word "x")])]

def spans : Node := .mapping none [(word "stop", word "1.5s")]

end Config

end MountSweep
