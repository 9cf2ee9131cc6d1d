import Maximus.Args
import Maximus.Consensus
import Maximus.Overrides
import Maximus.Profiles
import Maximus.Quorum.Adapt
import Maximus.Quorum.Runs
import Maximus.Quorum.Restart
import Maximus.VersionBits
import Maximus.VbParams
import Maximus.Roles
import Maximus.Globals
import Maximus.Construction
import Maximus.Int32Lists
import Maximus.Genesis
import Maximus.Quorum.Lookup
import Maximus.Reachable
