import TikvOperator.Basic
import TikvOperator.Types
import TikvOperator.Regexp
import TikvOperator.Effects
import TikvOperator.Upgrading
import TikvOperator.StoreStatus
import TikvOperator.Labels
import TikvOperator.Service
import TikvOperator.Component
import TikvOperator.Shell
import TikvOperator.Workload
import TikvOperator.Sync
import TikvOperator.Converge
