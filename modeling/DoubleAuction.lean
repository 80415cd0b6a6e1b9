import DoubleAuction.Market.Exchange
import DoubleAuction.Matching.SortedBook
import DoubleAuction.Stored.Market
import DoubleAuction.Proofs.Ledger.Supply
import DoubleAuction.Proofs.Ledger.Conservation
import DoubleAuction.Proofs.Market.Payouts
import DoubleAuction.Proofs.Book.Contents
import DoubleAuction.Proofs.Matching.Conservation
import DoubleAuction.Proofs.Market.Admissions
import DoubleAuction.Proofs.Market.Rollback
import DoubleAuction.Proofs.Exchange.Steps
import DoubleAuction.Proofs.Exchange.Returns
import DoubleAuction.Proofs.Exchange.Accounts
import DoubleAuction.Proofs.Exchange.Escrow
import DoubleAuction.Proofs.Exchange.Progress
import DoubleAuction.Proofs.Exchange.PendingDeposits
import DoubleAuction.Proofs.Bytes
import DoubleAuction.Proofs.Order.Priority
import DoubleAuction.Proofs.Order.Correspondence
import DoubleAuction.Proofs.Book.HeapOrder
import DoubleAuction.Proofs.Book.KeyBag
import DoubleAuction.Proofs.Matching.SortedBook
import DoubleAuction.Proofs.Matching.Priority
import DoubleAuction.Proofs.Market.Receipts
import DoubleAuction.Proofs.Market.Resumption
import DoubleAuction.Proofs.Market.SingleUse
import DoubleAuction.Proofs.Market.BookInvariant
import DoubleAuction.Proofs.Stored.Runs
import DoubleAuction.Proofs.Matching.Outcomes
import DoubleAuction.Proofs.Matching.Spread
import DoubleAuction.Market.Requests
import DoubleAuction.Proofs.Market.Placing
import DoubleAuction.Proofs.Exchange.Independence
import DoubleAuction.Proofs.Matching.Remainders
import DoubleAuction.Proofs.Matching.Termination
import DoubleAuction.Proofs.Order.KeyOrder
import DoubleAuction.Proofs.Market.Volume
import DoubleAuction.Proofs.Market.Gate
import DoubleAuction.Proofs.Matching.FillRoot
import DoubleAuction.Proofs.Address.Grammar
