import ArpaNode.Core.Word
import ArpaNode.Core.Config
import ArpaNode.Core.Limit
import ArpaNode.Core.Utf8
import ArpaNode.Core.Address
import ArpaNode.Core.Account
import ArpaNode.ContractClient.Retry
import ArpaNode.ContractClient.Caller
import ArpaNode.ContractClient.Provider
import ArpaNode.Node.Error
import ArpaNode.Listener.Block
import ArpaNode.Dal.Group
import ArpaNode.Dal.ResultCache
import ArpaNode.Subscriber.PreGrouping
import ArpaNode.Committer.Server
import ArpaNode.Committer.Run
import ArpaNode.Committer.Stored
