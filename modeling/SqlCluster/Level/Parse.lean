import SqlCluster.Value.Show
import SqlCluster.Text.Blank
import SqlCluster.Text.Case
/-!
Reading a consistency level from a setting. A level stands for itself; of anything else the plain
text counts, without regard to case and outer blanks.
-/
namespace SqlCluster.Level

def parse? : Value → Option Level
  | .level l => some l
  | v => ofName? (Text.lowerText (Text.strip v.plain))

end SqlCluster.Level
