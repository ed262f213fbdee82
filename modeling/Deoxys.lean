import Deoxys.Bytes
import Deoxys.Rocks
import Deoxys.BonsaiDb
import Deoxys.PrefixScan
import Deoxys.Refinement
import Deoxys.Snapshots
import Deoxys.Felt
import Deoxys.IndexMap
import Deoxys.StateDiff
import Deoxys.Convert
import Deoxys.StorageHandler
import Deoxys.Commitment
import Deoxys.CommitmentSpec
import Deoxys.Atomicity
import Deoxys.Determinism
import Deoxys.CanonicalFelts
import Deoxys.ContractLeaves
import Deoxys.MappingSync
