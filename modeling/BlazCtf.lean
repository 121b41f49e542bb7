import BlazCtf.Lib.Checked
import BlazCtf.Lib.Run
import BlazCtf.Lib.Ledger
import BlazCtf.Lib.Newton
import BlazCtf.Lib.Traced
import BlazCtf.Lib.Bytes
import BlazCtf.Lib.Buffer
import BlazCtf.Lib.Memory
import BlazCtf.Lib.CString
import BlazCtf.Lib.Json
import BlazCtf.Lib.Python
import BlazCtf.Lib.Solana
import BlazCtf.Lib.PercentCoding
import BlazCtf.Lib.Portfolio
import BlazCtf.Lib.Compound
import BlazCtf.Erc20.Standard
import BlazCtf.Erc20.Version4
import BlazCtf.Erc20.Solady
import BlazCtf.EightInch.SimpleErc20
import BlazCtf.EightInch.SimpleErc20Accounts
import BlazCtf.EightInch.Settlement
import BlazCtf.EightInch.SettlementSpec
import BlazCtf.EightInch.SettlementTokens
import BlazCtf.EightInch.SettlementSolvency
import BlazCtf.EightInch.SettlementAmounts
import BlazCtf.EightInch.SettlementFills
import BlazCtf.EightInch.SettlementFloor
import BlazCtf.TonyLend.Pool
import BlazCtf.TonyLend.PoolSpec
import BlazCtf.TonyLend.PoolBooks
import BlazCtf.TonyLend.PoolTotals
import BlazCtf.TonyLend.PoolCash
import BlazCtf.TonyLend.PoolNet
import BlazCtf.TonyLend.PoolHealth
import BlazCtf.TonyLend.PoolCollateral
import BlazCtf.TonyLend.PoolLiquidation
import BlazCtf.TonyLend.PoolBlock
import BlazCtf.TonyLend.PoolInterest
import BlazCtf.TonyLend.PoolClock
import BlazCtf.Doju.Sqrt
import BlazCtf.Doju.Token
import BlazCtf.Doju.TokenSpec
import BlazCtf.Doju.Conservation
import BlazCtf.Doju.Reserve
import BlazCtf.Doju.Circulating
import BlazCtf.Doju.Limit
import BlazCtf.Bridge.Contract
import BlazCtf.Bridge.Steps
import BlazCtf.Bridge.Guard
import BlazCtf.Bridge.Relaying
import BlazCtf.Bridge.Outbox
import BlazCtf.Bridge.System
import BlazCtf.Bridge.TokenBooks
import BlazCtf.Bridge.TokenReserve
import BlazCtf.Bridge.Backing
import BlazCtf.Relayer.Machine
import BlazCtf.Relayer.Scan
import BlazCtf.Relayer.NoLoss
import BlazCtf.Relayer.Chains
import BlazCtf.Relayer.Rollback
import BlazCtf.Admin.Precompile
import BlazCtf.Admin.MultiSig
import BlazCtf.Admin.Evm
import BlazCtf.Admin.Stack
import BlazCtf.Admin.Progress
import BlazCtf.Admin.Authority
import BlazCtf.Admin.Journal
import BlazCtf.Admin.Approval
import BlazCtf.Admin.Reload
import BlazCtf.Admin.Accesses
import BlazCtf.Admin.Governance
import BlazCtf.BigenLayer.Contract
import BlazCtf.BigenLayer.Solvency
import BlazCtf.BigenLayer.Recipients
import BlazCtf.RpcProxy.Proxy
import BlazCtf.RpcProxy.Batch
import BlazCtf.RpcProxy.WebSocket
import BlazCtf.Orchestrator.Databases
import BlazCtf.Orchestrator.RedisIndex
import BlazCtf.Orchestrator.Agreement
import BlazCtf.Orchestrator.RedisWorkers
import BlazCtf.Orchestrator.Docker
import BlazCtf.Orchestrator.Launches
import BlazCtf.Orchestrator.Kubernetes
import BlazCtf.Orchestrator.Cleanup
import BlazCtf.Orchestrator.Metadata
import BlazCtf.Orchestrator.SqliteLock
import BlazCtf.CyberCartel.BodyGuard
import BlazCtf.CyberCartel.Nonces
import BlazCtf.CyberCartel.Quorum
import BlazCtf.CyberCartel.Treasury
import BlazCtf.Safusol.Program
import BlazCtf.Safusol.Effects
import BlazCtf.Safusol.Books
import BlazCtf.Safusol.Lock
import BlazCtf.Safusol.Solvency
import BlazCtf.Solalloc.Program
import BlazCtf.Solalloc.Guard
import BlazCtf.Solalloc.Owner
import BlazCtf.Solalloc.Allocator
import BlazCtf.Solalloc.Copies
import BlazCtf.Solalloc.Decoding
import BlazCtf.Solalloc.RoundTrip
import BlazCtf.Tutori4l.Hook
import BlazCtf.Tutori4l.Payments
import BlazCtf.Tutori4l.Rewards
import BlazCtf.Tonyallet.InitData
import BlazCtf.Tonyallet.Authenticity
import BlazCtf.Venn.Judge
import BlazCtf.Revm.EvmRuns
import BlazCtf.Revm.WordOpcodes
