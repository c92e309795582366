import BasWar.Cooperative.Service
import BasWar.Cooperative.Pool
import BasWar.ChainBridge.Recharge
import BasWar.ChainBridge.RechargeOnce
import BasWar.ChainBridge.WithdrawNFT
import BasWar.ChainBridge.WithdrawToken
import BasWar.Starmap.GridService
import BasWar.Starmap.GridTable
import BasWar.Starmap.GridLending
import BasWar.Starmap.GridPlacing
import BasWar.Starmap.GridCustody
import BasWar.Starmap.GridCustodyRun
import BasWar.Unions.CampaignArmy
import BasWar.Unions.CampaignArmyAtomic
import BasWar.Starmap.Campaign
import BasWar.Starmap.CampaignEnd
import BasWar.Starmap.CampaignArmies
import BasWar.Starmap.PrivateGrids
import BasWar.Pvp.MatchReward
import BasWar.Match.Jackpot
import BasWar.Player.Save
import BasWar.Mail.MailBag
import BasWar.Mail.MailReceive
import BasWar.Player.PlayerMgr
import BasWar.Player.PlayerMgrLoads
import BasWar.Pvp.BaseLock
import BasWar.Pvp.Battle
import BasWar.Pvp.PaidBattles
import BasWar.Match.Distribute
import BasWar.Match.RankChanges
import BasWar.Match.RankKept
import BasWar.Match.Rewarded
import BasWar.Mail.Delivery
import BasWar.Mail.Delivered
import BasWar.Mail.DeliveryIds
import BasWar.Mail.DeliveryMarks
import BasWar.Mail.DeliveryTurns
import BasWar.Mail.DeliveryBags
import BasWar.Mail.DeliveredOnce
import BasWar.Unions.Jobs
import BasWar.Starmap.Owners
import BasWar.Starmap.GridStatuses
import BasWar.Starmap.GridStatusRun
import BasWar.Starmap.GridStatusEnds
import BasWar.Starmap.GridStatusMachine
import BasWar.Starmap.GridCaps
import BasWar.Starmap.GridCapsRun
import BasWar.Starmap.OwnersKept
import BasWar.Starmap.OwnersRun
import BasWar.Starmap.BeginGrids
import BasWar.Starmap.OneObject
import BasWar.Cooperative.Locks
import BasWar.Unions.GridLocks
import BasWar.Unions.Treasury
import BasWar.Unions.TreasuryKept
import BasWar.Unions.Founding
import BasWar.Unions.UnionMgr
import BasWar.Unions.UnionMoves
import BasWar.Unions.Membership
import BasWar.Unions.Names
import BasWar.Unions.DonorBags
import BasWar.Unions.NftDonation
import BasWar.Unions.NftKeeper
import BasWar.Player.MapGrids
import BasWar.Player.BaseMap
import BasWar.Player.BaseMapKept
import BasWar.Player.Upgrades
import BasWar.Player.UpgradesPaid
import BasWar.Player.LevelUps
import BasWar.Player.LevelUpsPaid
import BasWar.Cooperative.Script
import BasWar.Player.Rewards
import BasWar.Player.RewardsOnce
import BasWar.Player.ShoppingMall
import BasWar.Tables.Periods
import BasWar.Player.ShoppingMallKept
import BasWar.Unions.PaidWork
import BasWar.Unions.PaidWorkDone
import BasWar.Player.Armies
import BasWar.Player.ArmySums
import BasWar.Tables.Links
import BasWar.Player.ArmiesLinked
import BasWar.Player.ArmiesPaid
import BasWar.Player.ArmiesConserved
import BasWar.Starmap.CampaignSave
import BasWar.Player.Resources
import BasWar.Player.Stores
import BasWar.Player.Exchange
import BasWar.Player.InstantLevelUps
import BasWar.Player.MakeRes
import BasWar.Pvp.SettlementPot
import BasWar.Pvp.Plundered
import BasWar.Cluster.ClusterQueue
import BasWar.Cluster.FairLock
import BasWar.Player.Selling
import BasWar.Player.SkillCards
import BasWar.Unions.UnionSave
import BasWar.Player.ReserveArmies
import BasWar.Player.ReserveArmiesKept
import BasWar.Player.GuildReserve
import BasWar.Player.ItemStacks
import BasWar.Player.ItemUses
import BasWar.Player.ItemUsesExact
import BasWar.Pvp.MatchInfo
import BasWar.Tables.Accounts
import BasWar.Unions.SeasonReward
import BasWar.Unions.SeasonPayout
import BasWar.Pvp.OpponentPool
import BasWar.Pvp.OpponentCourse
import BasWar.Pvp.OpponentsFound
import BasWar.Starmap.CampaignDamage
import BasWar.Starmap.CampaignResults
import BasWar.Player.ItemStock
import BasWar.Player.DrawCardsPity
import BasWar.Player.Resolving
import BasWar.Pvp.BattleValid
import BasWar.Pvp.SkillSystem
import BasWar.Pvp.SkillSystemClosed
import BasWar.Starmap.GridAdjacency
import BasWar.Starmap.GridLayout
import BasWar.ChainBridge.NFTRecord
import BasWar.Match.MatchMgr
import BasWar.Player.FightReports
import BasWar.Player.ConstructionCount
import BasWar.Player.Achievements
import BasWar.Player.PveRewards
import BasWar.Player.VipTime
import BasWar.Rank.RankVersions
import BasWar.Unions.TechEffects
import BasWar.Tables.Thresholds
import BasWar.Unions.DaoDonations
import BasWar.Player.Dismantling
import BasWar.Mail.DeliveryAddressed
import BasWar.Cluster.Sync
import BasWar.Cluster.Snowflake
import BasWar.Cluster.SocketPackage
